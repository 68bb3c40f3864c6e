import Scriptlet.Text.Hex
import Scriptlet.Yaml.Scalar

/-!
# Scriptlet.Yaml.Property — anchors, tags and directives

Nodes are named by anchors and typed by tags.  A tag is written in full, or as a handle and what
comes after it; directives at the start of a document say what handles stand for.
-/

namespace Scriptlet.Yaml

/-- The characters of names. -/
def isNameChar (c : Char) : Bool := c.isAlphanum || c == '_' || c == '-'

/-- The name after the mark of an anchor or of a reference to one, which is the current
character. -/
def anchorName : Scan Text := do
  Scan.skip 1
  Scan.need 1
  let name ← Scan.takeWhile isNameChar
  let c ← get
  let ended := c.gapAt 0 || c.satisfies ("?:,]\x7d%@".toList.contains ·) ||
    c.satisfies (·.toNat == 0x60)
  if name.isEmpty || !ended then throw ⟨⟩
  return Text.ofChars name

/-! ### Tags -/

/-- The characters of the names of tags. -/
def isUriChar (c : Char) : Bool := isNameChar c || ";/?:@&=+$,.!~*'()[]%".toList.contains c

/-- The byte that is written as a percent sign and two hexadecimal digits. -/
def escapedByte : Scan UInt8 := do
  Scan.need 3
  match (← get).rest with
  | '%' :: a :: b :: _ =>
    match hexValue? a, hexValue? b with
    | some x, some y =>
      Scan.skip 3
      return (x * 16 + y).toUInt8
    | _, _ => throw ⟨⟩
  | _ => throw ⟨⟩

/-- The bytes after the first of an escaped character. -/
def escapedTail : (count : Nat) → Scan Text
  | 0 => pure []
  | count + 1 => do
    let b ← escapedByte
    if b < 0x80 || 0xC0 ≤ b then throw ⟨⟩
    return b :: (← escapedTail count)

/-- The bytes of a character each of which is escaped. -/
def escapedChar : Scan Text := do
  let b ← escapedByte
  match Encoding.width? b with
  | none => throw ⟨⟩
  | some width => return b :: (← escapedTail (width - 1))

/-- The rest of the name of a tag. -/
def uriRest : Nat → Scan Text
  | 0 => pure []
  | n + 1 => do
    match (← get).peek? 0 with
    | none => return []
    | some x =>
      if isUriChar x then
        let bytes ←
          if x = '%' then escapedChar
          else do
            Scan.skip 1
            pure (Text.ofChar x)
        Scan.need 1
        return bytes ++ (← uriRest n)
      else return []

/-- The name of a tag. -/
def uri : Scan Text := do
  Scan.need 1
  uriRest (← get).rest.length

/-- An exclamation mark and a name, and another mark if there is one. -/
def handle : Scan Text := do
  Scan.need 1
  if !(← get).sees '!' then throw ⟨⟩
  Scan.skip 1
  Scan.need 1
  let name ← Scan.takeWhile isNameChar
  if (← get).sees '!' then
    Scan.skip 1
    return Text.ofChars ('!' :: name ++ ['!'])
  else return Text.ofChars ('!' :: name)

/-- Whether a text that begins with an exclamation mark is a handle with a mark at its end. -/
def isClosedHandle (h : Text) : Bool := 1 < h.length && h.getLast? == some 0x21

/-- A tag as it is written: a handle, which is empty for a tag written in full, and the rest. -/
structure WrittenTag where
  handle : Text
  suffix : Text
  deriving DecidableEq, Repr

/-- The tag whose exclamation mark is the current character. -/
def tag : Scan WrittenTag := do
  Scan.need 2
  let written ←
    if (← get).peek? 1 = some '<' then do
      Scan.skip 2
      let suffix ← uri
      if suffix.isEmpty || !(← get).sees '>' then throw ⟨⟩
      Scan.skip 1
      pure { handle := [], suffix }
    else do
      let h ← handle
      let suffix ← uri
      if isClosedHandle h then
        if suffix.isEmpty then throw ⟨⟩
        pure { handle := h, suffix }
      else
        let suffix := h.drop 1 ++ suffix
        if suffix.isEmpty then pure { handle := [], suffix := h }
        else pure { handle := utf8 "!", suffix }
  Scan.need 1
  if !(← get).gapAt 0 then throw ⟨⟩
  return written

/-! ### Directives -/

/-- A line at the start of a document that says how to read it. -/
inductive Directive where
  | version (major minor : Nat)
  /-- What a handle stands for. -/
  | tagHandle (handle stem : Text)
  deriving DecidableEq, Repr

/-- A part of a version: one digit or two. -/
def versionPart : Scan Nat := do
  Scan.need 1
  let digits := (← get).rest.takeWhile Char.isDigit
  if digits.isEmpty || 2 < digits.length then throw ⟨⟩
  Scan.pass 1 digits.length
  return digits.foldl (fun n c => n * 10 + (c.toNat - '0'.toNat)) 0

/-- The directive whose percent sign is the current character, up to the end of its line. -/
def directive : Scan Directive := do
  Scan.skip 1
  Scan.need 1
  let name ← Scan.takeWhile isNameChar
  if name.isEmpty || !(← get).gapAt 0 then throw ⟨⟩
  let d ←
    if name = "YAML".toList then do
      Scan.skipWhile isPad
      let major ← versionPart
      if !(← get).sees '.' then throw ⟨⟩
      Scan.skip 1
      pure (Directive.version major (← versionPart))
    else if name = "TAG".toList then do
      Scan.skipWhile isPad
      let h ← handle
      if h ≠ utf8 "!" && !isClosedHandle h then throw ⟨⟩
      Scan.need 1
      if !(← get).satisfies isPad then throw ⟨⟩
      Scan.skipWhile isPad
      let stem ← uri
      if stem.isEmpty || !(← get).gapAt 0 then throw ⟨⟩
      pure (Directive.tagHandle h stem)
    else throw ⟨⟩
  blankRest
  return d

end Scriptlet.Yaml
