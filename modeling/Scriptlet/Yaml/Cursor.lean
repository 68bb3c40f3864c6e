import Scriptlet.Yaml.Source

/-!
# Scriptlet.Yaml.Cursor — a place in a YAML document

Lines and columns are counted from zero.  A reader asks for as many characters as it is going to
look at; the batches with these are decoded then, and that is when a fault in them shows.
-/

namespace Scriptlet.Yaml

/-- A space or a tab. -/
def isPad (c : Char) : Bool := c == ' ' || c == '\t'

/-- A line break. -/
def isBreak (c : Char) : Bool :=
  c == '\n' || c == '\r' || c.toNat == 0x85 || c.toNat == 0x2028 || c.toNat == 0x2029

/-- A place in a document. -/
structure Cursor where
  /-- The characters from here on. -/
  rest : List Char
  /-- How many characters from here on are decoded; beyond the end of the document, any number. -/
  ready : Nat
  /-- The sizes of the batches that are not decoded. -/
  batches : List Nat
  /-- Whether the last of these ends the document; otherwise there is a fault after it. -/
  sound : Bool
  /-- The character that was the current one when a batch was decoded for the last time. -/
  front : Option Char
  /-- How many characters came before. -/
  index : Nat
  line : Nat
  column : Nat
  /-- Whether there was a line break and nothing but white space since. -/
  afterBreak : Bool
  deriving DecidableEq, Repr

namespace Cursor

/-- The start of a document. -/
def start (s : Source) : Cursor where
  rest := s.chars
  ready := 0
  batches := s.batches.map List.length
  sound := s.sound
  front := none
  index := 0
  line := 0
  column := 0
  afterBreak := false

/-- The character at a distance. -/
def peek? (c : Cursor) (distance : Nat) : Option Char := c.rest[distance]?

/-- Whether the current character is `x`. -/
def sees (c : Cursor) (x : Char) : Bool := c.peek? 0 == some x

/-- Whether the current character has property `p`. -/
def satisfies (c : Cursor) (p : Char → Bool) : Bool := (c.peek? 0).any p

/-- Whether there is white space, a line break or the end of the document at a distance. -/
def gapAt (c : Cursor) (distance : Nat) : Bool :=
  (c.peek? distance).all fun x => isPad x || isBreak x

/-- Whether the line ends here. -/
def atLineEnd (c : Cursor) : Bool := (c.peek? 0).all isBreak

/-- Pass over a character of a line. -/
def advance (c : Cursor) : Cursor :=
  { c with
    rest := c.rest.tail
    ready := c.ready - 1
    index := c.index + 1
    column := c.column + 1
    afterBreak := c.afterBreak && c.satisfies isPad }

/-- Pass over a line break: what it counts as, and the start of the next line. -/
def nextLine (c : Cursor) : List Char × Cursor :=
  let after (rest : List Char) (width : Nat) : Cursor :=
    { c with
      rest
      ready := c.ready - width
      index := c.index + width
      line := c.line + 1
      column := 0
      afterBreak := true }
  match c.rest with
  | [] => ([], c)
  | '\r' :: '\n' :: rest => (['\n'], after rest 2)
  | b :: rest =>
    let kept := b.toNat == 0x2028 || b.toNat == 0x2029
    ([if kept then b else '\n'], after rest 1)

/-- Decode batches until `n` characters are ready or no batch is left. -/
def fill (n : Nat) : (ready : Nat) → (batches : List Nat) → Nat × List Nat
  | ready, [] => (ready, [])
  | ready, size :: sizes =>
    if n ≤ ready + size then (ready + size, sizes) else fill n (ready + size) sizes

/-- Make sure that `n` characters can be looked at. -/
def need (c : Cursor) (n : Nat) : Except Malformed Cursor :=
  if n ≤ c.ready then .ok c
  else
    let (ready, batches) := fill n c.ready c.batches
    let front := c.peek? 0
    if n ≤ ready then .ok { c with ready, batches, front }
    else if c.sound then .ok { c with ready := ready + 1, batches, front }
    else .error ⟨⟩

/-- Whether the line begins with three times the character `x` and a gap. -/
def atMarker (c : Cursor) (x : Char) : Bool :=
  c.column == 0 && c.rest.take 3 == [x, x, x] && c.gapAt 3

/-- Whether one document ends and another may begin here. -/
def atBoundary (c : Cursor) : Bool := c.atMarker '-' || c.atMarker '.'

end Cursor

/-- What reads some of a document and moves on to the place after it. -/
abbrev Scan := StateT Cursor (Except Malformed)

namespace Scan

/-- Make sure that `n` characters can be looked at. -/
def need (n : Nat) : Scan Unit := fun c => (c.need n).map fun c' => ((), c')

/-- Pass over a number of characters of a line. -/
def skip : (count : Nat) → Scan Unit
  | 0 => pure ()
  | count + 1 => do
    modify Cursor.advance
    skip count

/-- Pass over a line break: what it counts as. -/
def nextLine : Scan (List Char) := do
  need 2
  modifyGet Cursor.nextLine

/-- Pass over characters one by one, each time asking for those that come next. -/
def pass (ahead : Nat) : (count : Nat) → Scan Unit
  | 0 => pure ()
  | count + 1 => do
    skip 1
    need ahead
    pass ahead count

/-- The characters with property `p` that come next. -/
def takeWhile (p : Char → Bool) : Scan (List Char) := do
  let run := (← get).rest.takeWhile p
  pass 1 run.length
  return run

/-- Pass over the characters with property `p` that come next. -/
def skipWhile (p : Char → Bool) : Scan Unit := do
  let _ ← takeWhile p

end Scan

end Scriptlet.Yaml
