import Scriptlet.Text.Hex
import Scriptlet.Yaml.Cursor

/-!
# Scriptlet.Yaml.Scalar — reading scalars

A scalar may go over several lines.  White space inside a line is kept; white space around a line
break is dropped, a single break becomes a space, and of several breaks all but the first are kept.

Readers that take a number are bounded by it; the number of characters left is enough.
-/

namespace Scriptlet.Yaml

/-- White space inside a scalar: spaces and tabs, or line breaks with whatever is around them. -/
inductive Gap where
  | spaces (chars : List Char)
  | breaks (first more : List Char)
  deriving DecidableEq, Repr

namespace Gap

/-- What a gap counts as between two words. -/
def text : Gap → List Char
  | spaces chars => chars
  | breaks first more =>
    if first = ['\n'] then if more = [] then [' '] else more else first ++ more

def hasBreak : Gap → Bool
  | spaces _ => false
  | breaks _ _ => true

/-- The gap at a place, added to one already read.  In the indentation of a line, which ends at
column `indent`, there must be no tab. -/
def read (indent : Int) : Nat → Gap → Scan Gap
  | 0, gap => pure gap
  | n + 1, gap => do
    let c ← get
    match c.peek? 0 with
    | none => return gap
    | some x =>
      if isPad x then
        if gap.hasBreak && x == '\t' && c.column < indent then throw ⟨⟩
        Scan.skip 1
        Scan.need 1
        match gap with
        | spaces chars => read indent n (spaces (chars ++ [x]))
        | breaks _ _ => read indent n gap
      else if isBreak x then
        let b ← Scan.nextLine
        Scan.need 1
        match gap with
        | spaces _ => read indent n (breaks b [])
        | breaks first more => read indent n (breaks first (more ++ b))
      else return gap

end Gap

/-! ### Plain scalars -/

/-- Whether a plain scalar ends at the current character, which is not white space. -/
def endsPlain (flow : Bool) (c : Cursor) : Bool :=
  (c.sees ':' && c.gapAt 1) || (flow && c.satisfies (",?[]\x7b\x7d".toList.contains ·))

/-- The characters of a plain scalar up to the next gap or to its end. -/
def plainWord (flow : Bool) : Nat → Scan (List Char)
  | 0 => pure []
  | n + 1 => do
    let c ← get
    match c.peek? 0 with
    | none => return []
    | some x =>
      if isPad x || isBreak x || endsPlain flow c then return []
      else
        Scan.skip 1
        Scan.need 2
        let word ← plainWord flow n
        return x :: word

/-- The rest of a plain scalar after the text and the gap already read: its text, and whether the
gap at its end has a line break.  Outside of brackets its lines go beyond column `indent`. -/
def plainRest (flow : Bool) (indent : Int) : Nat → List Char → Gap → Scan (List Char × Bool)
  | 0, text, gap => pure (text, gap.hasBreak)
  | n + 1, text, gap => do
    Scan.need 4
    let c ← get
    if c.atBoundary || c.sees '#' then return (text, gap.hasBreak)
    let word ← plainWord flow c.rest.length
    if word.isEmpty then return (text, gap.hasBreak)
    let text := text ++ gap.text ++ word
    let c ← get
    if c.satisfies fun x => isPad x || isBreak x then
      Scan.need 1
      let gap ← Gap.read indent c.rest.length (.spaces [])
      if !flow && (← get).column < indent then return (text, gap.hasBreak)
      plainRest flow indent n text gap
    else return (text, false)

/-- A plain scalar: its text, and whether the gap after it has a line break. -/
def plain (flow : Bool) (indent : Int) : Scan (List Char × Bool) := do
  plainRest flow indent ((← get).rest.length + 1) [] (.spaces [])

/-! ### Quoted scalars -/

/-- The value of hexadecimal digits. -/
def hexNumber? (cs : List Char) : Option Nat :=
  cs.foldlM (fun n c => (hexValue? c).map (n * 16 + ·)) 0

/-- The character written with the given number of hexadecimal digits. -/
def hexEscape (width : Nat) (digits : List Char) : Except Malformed Char :=
  match hexNumber? digits with
  | some n => if digits.length = width ∧ n.isValidChar then .ok (Char.ofNat n) else .error ⟨⟩
  | none => .error ⟨⟩

/-- The character that an escape stands for, by the character after the backslash. -/
def shortEscape? : Char → Option Char
  | '0' => some (Char.ofNat 0)
  | 'a' => some '\x07'
  | 'b' => some '\x08'
  | 't' | '\t' => some '\t'
  | 'n' => some '\n'
  | 'v' => some '\x0b'
  | 'f' => some '\x0c'
  | 'r' => some '\r'
  | 'e' => some '\x1b'
  | ' ' => some ' '
  | '"' => some '"'
  | '\'' => some '\''
  | '\\' => some '\\'
  | 'N' => some (Char.ofNat 0x85)
  | '_' => some (Char.ofNat 0xA0)
  | 'L' => some (Char.ofNat 0x2028)
  | 'P' => some (Char.ofNat 0x2029)
  | _ => none

/-- The number of digits of a numeric escape, by the character after the backslash. -/
def escapeWidth? : Char → Option Nat
  | 'x' => some 2
  | 'u' => some 4
  | 'U' => some 8
  | _ => none

/-- The character of the escape at a place. -/
def escape : Scan Char := do
  match (← get).peek? 1 with
  | none => throw ⟨⟩
  | some e =>
    Scan.skip 2
    match shortEscape? e, escapeWidth? e with
    | some x, _ => return x
    | none, some width =>
      Scan.need width
      let x ← hexEscape width ((← get).rest.take width)
      Scan.skip width
      return x
    | none, none => throw ⟨⟩

/-- The characters of a quoted scalar up to the next gap or to the closing quote, and whether a
backslash before a line break ends them. -/
def quotedWord (quote : Char) : Nat → Scan (List Char × Bool)
  | 0 => pure ([], false)
  | n + 1 => do
    let c ← get
    match c.peek? 0 with
    | none => return ([], false)
    | some x =>
      if isPad x || isBreak x then return ([], false)
      else if quote = '"' ∧ x = '\\' ∧ (c.peek? 1).any isBreak then
        Scan.need 3
        Scan.skip 1
        let _ ← Scan.nextLine
        return ([], true)
      else if x = quote ∧ (quote = '"' ∨ c.peek? 1 ≠ some quote) then return ([], false)
      else
        let y ←
          if quote = '"' ∧ x = '\\' then escape
          else do
            Scan.skip (if x = quote then 2 else 1)
            pure x
        Scan.need 2
        let (word, joined) ← quotedWord quote n
        return (y :: word, joined)

/-- The rest of a quoted scalar after the text already read. -/
def quotedRest (quote : Char) : Nat → List Char → Scan (List Char)
  | 0, _ => throw ⟨⟩
  | n + 1, text => do
    Scan.need 4
    let c ← get
    if c.atBoundary || c.rest.isEmpty then throw ⟨⟩
    let (word, joined) ← quotedWord quote c.rest.length
    Scan.need 1
    let c ← get
    if c.sees quote then
      Scan.skip 1
      return text ++ word
    let gap ← Gap.read 0 c.rest.length (if joined then .breaks [] [] else .spaces [])
    quotedRest quote n (text ++ word ++ gap.text)

/-- The quoted scalar whose opening quote is the current character. -/
def quoted (quote : Char) : Scan (List Char) := do
  Scan.skip 1
  quotedRest quote ((← get).rest.length + 1) []

/-! ### Block scalars -/

/-- What becomes of the line breaks at the end of a block scalar. -/
inductive Chomping where
  | strip
  | clip
  | keep
  deriving DecidableEq, Repr

/-- The indicator of what becomes of them, if there is one. -/
def chomping : Scan (Option Chomping) := do
  Scan.need 1
  let c ← get
  if c.sees '-' then
    Scan.skip 1
    return some .strip
  else if c.sees '+' then
    Scan.skip 1
    return some .keep
  else return none

/-- The digit that sets the indentation of a block scalar, if there is one; it must not be zero. -/
def indentDigit : Scan (Option Nat) := do
  Scan.need 1
  match (← get).peek? 0 with
  | some x =>
    if '0' ≤ x ∧ x ≤ '9' then
      if x = '0' then throw ⟨⟩
      Scan.skip 1
      return some (x.toNat - '0'.toNat)
    else return none
  | none => return none

/-- The indicators after the one that begins a block scalar, in either order. -/
def blockHeader : Scan (Chomping × Option Nat) := do
  match ← chomping with
  | some style => return (style, ← indentDigit)
  | none =>
    match ← indentDigit with
    | some digit => return ((← chomping).getD .clip, some digit)
    | none => return (.clip, none)

/-- The rest of the line after the indicators of a block scalar, or after a directive: it must be
blank or a comment. -/
def blankRest : Scan Unit := do
  Scan.need 1
  Scan.skipWhile isPad
  if (← get).sees '#' then Scan.skipWhile fun x => !isBreak x
  let c ← get
  if !c.atLineEnd then throw ⟨⟩
  if c.satisfies isBreak then
    let _ ← Scan.nextLine

/-- The empty lines at a place and the indentation of the line after them.  An indentation of zero
is not known yet; then the widest one among these lines is found as well. -/
def emptyLines (indent : Nat) : Nat → (widest : Nat) → List Char → Scan (Nat × List Char)
  | 0, widest, breaks => pure (widest, breaks)
  | n + 1, widest, breaks => do
    Scan.need 1
    let c ← get
    let spaces := (c.rest.takeWhile (· == ' ')).length
    Scan.pass 1 (if indent = 0 then spaces else min spaces (indent - c.column))
    let c ← get
    let widest := max widest c.column
    if (indent = 0 ∨ c.column < indent) ∧ c.sees '\t' then throw ⟨⟩
    if c.satisfies isBreak then
      let b ← Scan.nextLine
      emptyLines indent n widest (breaks ++ b)
    else return (widest, breaks)

/-- The lines of a block scalar from the current one on: the text, the last line break and the empty
lines after it. -/
def blockLines (folded : Bool) (indent : Nat) :
    Nat → (text lastBreak empty : List Char) → (afterPad : Bool) →
      Scan (List Char × List Char × List Char)
  | 0, text, lastBreak, empty, _ => pure (text, lastBreak, empty)
  | n + 1, text, lastBreak, empty, afterPad => do
    let c ← get
    if c.column ≠ indent ∨ c.rest.isEmpty then return (text, lastBreak, empty)
    let pad := c.satisfies isPad
    let joint :=
      if folded && !afterPad && !pad && lastBreak == ['\n'] then
        if empty = [] then [' '] else []
      else lastBreak
    let line ← Scan.takeWhile fun x => !isBreak x
    let b ← Scan.nextLine
    let (_, empty') ← emptyLines indent ((← get).rest.length + 1) 0 []
    blockLines folded indent n (text ++ joint ++ empty ++ line) b empty' pad

/-- The block scalar whose indicator is the current character, inside a structure indented by
`outer` columns. -/
def block (folded : Bool) (outer : Int) : Scan (List Char) := do
  Scan.skip 1
  let (style, digit) ← blockHeader
  blankRest
  let set := match digit with
    | some d => d + outer.toNat
    | none => 0
  let (widest, empty) ← emptyLines set ((← get).rest.length + 1) 0 []
  let indent := if set = 0 then max (max widest (outer + 1).toNat) 1 else set
  Scan.need 1
  let (text, lastBreak, empty) ←
    blockLines folded indent ((← get).rest.length + 1) [] [] empty false
  return text ++ match style with
    | .strip => []
    | .clip => lastBreak
    | .keep => lastBreak ++ empty

end Scriptlet.Yaml
