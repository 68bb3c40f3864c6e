import Scriptlet.Yaml.Property

/-!
# Scriptlet.Yaml.Lexeme — the parts of a YAML document

A document is cut into lexemes: scalars, names, tags, brackets and marks, and besides the marks that
follow from the layout, namely where a structure made by indentation begins and ends.

What begins a mapping is seen only at the colon after its first key.  So lexemes wait in a queue,
and one that could be a key is not handed out before it is known whether a colon follows.  Besides,
the queue runs two lexemes ahead of what is handed out, which shows where a document with a fault
ends.
-/

namespace Scriptlet.Yaml

/-- The kinds of lexemes. -/
inductive Kind where
  | streamStart
  | streamEnd
  | directive (d : Directive)
  | documentStart
  | documentEnd
  | blockSequenceStart
  | blockMappingStart
  | blockEnd
  | flowSequenceStart
  | flowSequenceEnd
  | flowMappingStart
  | flowMappingEnd
  | blockEntry
  | flowEntry
  | key
  | value
  | anchor (name : Text)
  /-- A reference to an anchor. -/
  | reference (name : Text)
  | tag (written : WrittenTag)
  | scalar (text : List Char) (quoted : Bool)
  deriving DecidableEq, Repr

/-- A part of a document and the line where it begins. -/
structure Lexeme where
  kind : Kind
  line : Nat
  deriving DecidableEq, Repr

/-! ### White space and comments -/

namespace Gap

/-- Pass over everything up to the character with the given index. -/
def passTo (index : Nat) : Nat → Scan Unit
  | 0 => pure ()
  | n + 1 => do
    Scan.need 1
    let c ← get
    if index ≤ c.index then return
    if c.satisfies isBreak then
      let _ ← Scan.nextLine
    else Scan.skip 1
    passTo index n

/-- Pass over everything up to the comment at a distance, and over the comment. -/
def passComment (distance : Nat) : Scan Unit := do
  passTo ((← get).index + distance) (distance + 1)
  Scan.skipWhile fun x => !isBreak x

/-- How far ahead a comment is looked for. -/
def reach : Nat := 512

/-- The distance of a comment from the current place, if there is nothing but white space before it.
The search begins at `distance` and goes over `n` characters; `lines` says whether it goes on after
a line break. -/
def commentAhead (lines : Bool) : (n distance : Nat) → Scan (Option Nat)
  | 0, _ => pure none
  | n + 1, distance => do
    Scan.need (distance + 1)
    match (← get).peek? distance with
    | none => return none
    | some x =>
      if x = '#' then return some distance
      else if isPad x || (lines && (x == '\n' || x == '\r')) then
        commentAhead lines n (distance + 1)
      else return none

/-- Pass over the comment at the current place and over those after it, as long as there is nothing
but white space between them. -/
def passComments : Nat → Scan Unit
  | 0 => pure ()
  | n + 1 => do
    passComment 0
    let c ← get
    if c.rest.isEmpty || c.satisfies fun x => x == '\n' || x == '\r' then
      match ← commentAhead true (reach - 1) 1 with
      | none => return
      | some distance =>
        passTo ((← get).index + distance) (distance + 1)
        passComments n

/-- Pass over a comment at the end of the current line; there is none if the line has just begun. -/
def passLineComment : Scan Unit := do
  if (← get).afterBreak then return
  match ← commentAhead false reach 0 with
  | none => return
  | some distance => passComment distance

/-- Pass over white space and comments, and tell whether a key may begin after them.  Inside of
brackets, and where no key may begin, tabs are white space. -/
def pass (flow : Bool) : Nat → (keyAllowed : Bool) → Scan Bool
  | 0, keyAllowed => pure keyAllowed
  | n + 1, keyAllowed => do
    Scan.need 1
    let c ← get
    if c.column = 0 ∧ c.front.any (·.toNat == 0xFEFF) then Scan.skip 1
    Scan.need 1
    Scan.skipWhile fun x => x == ' ' || ((flow || !keyAllowed) && x == '\t')
    let c ← get
    if c.sees '#' then passComments c.rest.length
    if (← get).satisfies isBreak then
      let _ ← Scan.nextLine
      pass flow n (keyAllowed || !flow)
    else return keyAllowed

end Gap

/-! ### Layout -/

/-- Something that is a key if a colon follows it. -/
structure Candidate where
  /-- How many lexemes come before it. -/
  number : Nat
  /-- Where it begins. -/
  index : Nat
  line : Nat
  column : Nat
  /-- Whether nothing but a key can stand there. -/
  required : Bool
  /-- Whether it can still become a key. -/
  live : Bool
  /-- Whether it is kept back until that is settled. -/
  awaited : Bool
  deriving DecidableEq, Repr

/-- The state of the cutting. -/
structure Layout where
  cursor : Cursor
  /-- The depth of brackets. -/
  flow : Nat
  /-- The column of the innermost structure made by indentation, or -1 outside of all. -/
  indent : Int
  /-- The columns of the structures around it. -/
  outer : List Int
  /-- Whether a key may begin here. -/
  keyAllowed : Bool
  /-- The candidate of the innermost brackets. -/
  candidate : Candidate
  /-- The candidates of the brackets around it. -/
  outerCandidates : List Candidate
  /-- The lexemes that wait. -/
  queue : List Lexeme
  /-- The number of lexemes that have been handed out. -/
  given : Nat

namespace Layout

/-- The candidate where there is none: it has the place of the next lexeme. -/
def noCandidate (number : Nat) (c : Cursor) : Candidate :=
  ⟨number, c.index, c.line, c.column, false, false, false⟩

/-- The start of a document. -/
def start (s : Source) : Layout where
  cursor := .start s
  flow := 0
  indent := -1
  outer := []
  keyAllowed := true
  candidate := noCandidate 0 (.start s)
  outerCandidates := []
  queue := [⟨.streamStart, 0⟩]
  given := 0

/-- The layout after some of the document has been read. -/
def scan {α : Type} (l : Layout) (s : Scan α) : Except Malformed (α × Layout) :=
  (s l.cursor).map fun (a, cursor) => (a, { l with cursor })

/-- A lexeme at the current place. -/
def lexeme (l : Layout) (kind : Kind) : Lexeme := ⟨kind, l.cursor.line⟩

/-- Add a lexeme to the queue. -/
def push (l : Layout) (x : Lexeme) : Layout := { l with queue := l.queue ++ [x] }

/-- Add a lexeme to the queue in front of the one with a number, or at the end if that one has been
handed out. -/
def pushBefore (l : Layout) (number : Nat) (x : Lexeme) : Layout :=
  if number < l.given then l.push x
  else
    let k := number - l.given
    { l with queue := l.queue.take k ++ x :: l.queue.drop k }

/-- Add a lexeme that begins at the current place and is read by `s`. -/
def put {α : Type} (l : Layout) (s : Scan α) (kind : α → Kind) : Except Malformed Layout := do
  let (a, l') ← l.scan s
  return l'.push (l.lexeme (kind a))

/-- Add a mark of one character. -/
def putMark (l : Layout) (kind : Kind) : Except Malformed Layout :=
  l.put (Scan.skip 1) fun _ => kind

/-- The number of the next lexeme. -/
def nextNumber (l : Layout) : Nat := l.given + l.queue.length

/-- Give up the candidate, which must not have been required to be a key. -/
def dropCandidate (l : Layout) : Except Malformed Layout :=
  if l.candidate.live then
    if l.candidate.required then .error ⟨⟩
    else .ok { l with candidate := { l.candidate with live := false, awaited := false } }
  else .ok l

/-- Note a possible key at the current place. -/
def noteCandidate (l : Layout) : Except Malformed Layout :=
  if l.keyAllowed then do
    let l ← l.dropCandidate
    let required := l.flow == 0 && l.indent == l.cursor.column
    let candidate := noCandidate l.nextNumber l.cursor
    return { l with candidate := { candidate with required, live := true, awaited := true } }
  else .ok l

/-- Whether a candidate can be a key if a colon stands here: it has to be on the same line, and not
too far.  One that has to be a key and cannot makes the document malformed. -/
def reaches (l : Layout) (c : Candidate) : Except Malformed Bool :=
  if !c.live then .ok false
  else if c.line == l.cursor.line && l.cursor.index ≤ c.index + 1024 then .ok true
  else if c.required then .error ⟨⟩
  else .ok false

/-- End the structures made by indentation beyond a column.  Their ends are on the line where the
last lexeme ended. -/
def dedent (l : Layout) (column : Int) (line : Nat) : Layout :=
  if l.flow ≠ 0 then l
  else
    let ended := (l.indent :: l.outer).takeWhile (column < ·)
    match (l.indent :: l.outer).drop ended.length with
    | [] => l
    | indent :: outer =>
      { l with
        indent
        outer
        queue := l.queue ++ List.replicate ended.length ⟨.blockEnd, line⟩ }

/-- How deep brackets, or structures made by indentation, may be nested. -/
def maxDepth : Nat := 10000

/-- Begin a structure made by indentation at a column, unless it is the current one: its start is
put in front of the lexeme with the given number. -/
def openBlock (l : Layout) (column number : Nat) (x : Lexeme) : Except Malformed Layout :=
  if l.flow = 0 ∧ l.indent < column then
    if l.outer.length < maxDepth then
      .ok ({ l with indent := column, outer := l.indent :: l.outer }.pushBefore number x)
    else .error ⟨⟩
  else .ok l

/-- A mark that begins a part of a structure made by indentation: outside of brackets it needs a
place where a key may begin. -/
def blockMark (l : Layout) (start mark : Kind) (keyAllowed : Bool) : Except Malformed Layout := do
  if l.flow = 0 ∧ !l.keyAllowed then throw ⟨⟩
  let l ← l.openBlock l.cursor.column l.nextNumber (l.lexeme start)
  let l ← l.dropCandidate
  { l with keyAllowed }.putMark mark

/-- The colon between a key and its value. -/
def valueMark (l : Layout) : Except Malformed Layout := do
  let c := l.candidate
  if ← l.reaches c then
    let l := l.pushBefore c.number ⟨.key, c.line⟩
    let l ← l.openBlock c.column c.number ⟨.blockMappingStart, c.line⟩
    { l with
      candidate := { c with live := false, awaited := false }
      keyAllowed := false }.putMark .value
  else
    if l.flow = 0 ∧ !l.keyAllowed then throw ⟨⟩
    let l ← l.openBlock l.cursor.column l.nextNumber (l.lexeme .blockMappingStart)
    { l with
      candidate := { c with live := false }
      keyAllowed := l.flow == 0 }.putMark .value

/-- An opening bracket. -/
def openFlow (l : Layout) (kind : Kind) : Except Malformed Layout := do
  let l ← l.noteCandidate
  if maxDepth ≤ l.flow then throw ⟨⟩
  { l with
    flow := l.flow + 1
    candidate := noCandidate l.nextNumber l.cursor
    outerCandidates := l.candidate :: l.outerCandidates
    keyAllowed := true }.putMark kind

/-- A closing bracket.  The candidate outside of the brackets is the opening bracket; it is kept
back no longer if no key was possible inside. -/
def closeFlow (l : Layout) (kind : Kind) : Except Malformed Layout := do
  let l ← l.dropCandidate
  let l := match l.outerCandidates with
    | [] => l
    | c :: cs =>
      { l with
        flow := l.flow - 1
        candidate := { c with awaited := c.awaited && c.number != l.candidate.number }
        outerCandidates := cs }
  { l with keyAllowed := false }.putMark kind

/-- End everything that is open, at the start or the end of a document. -/
def boundary (l : Layout) : Except Malformed Layout := do
  let l ← (l.dedent (-1) l.cursor.line).dropCandidate
  return { l with keyAllowed := false }

/-- A scalar or a property that may be a key or begin one. -/
def inlinePart {α : Type} (l : Layout) (s : Scan α) (kind : α → Kind) :
    Except Malformed Layout := do
  let l ← l.noteCandidate
  { l with keyAllowed := false }.put s kind

/-- A scalar without quotes. -/
def plainScalar (l : Layout) : Except Malformed Layout := do
  let l ← l.noteCandidate
  let ((text, newLine), l') ← l.scan (plain (l.flow != 0) (l.indent + 1))
  return { l' with keyAllowed := newLine }.push (l.lexeme (.scalar text false))

/-- A scalar made of whole lines. -/
def blockScalar (l : Layout) (folded : Bool) : Except Malformed Layout := do
  let l ← l.dropCandidate
  { l with keyAllowed := true }.put (block folded l.indent) (.scalar · true)

/-- Whether a plain scalar may begin at the current character. -/
def beginsPlain (l : Layout) : Bool :=
  match l.cursor.peek? 0 with
  | none => false
  | some x =>
    !(isPad x || isBreak x || "-?:,[]\x7b\x7d#&*!|>'\"%@".toList.contains x || x.toNat == 0x60) ||
      (x == '-' && !(l.cursor.peek? 1).any isPad) ||
      (l.flow == 0 && (x == '?' || x == ':') && !l.cursor.gapAt 1)

/-- The part that begins with the character `x` at the current place. -/
def part (l : Layout) (x : Char) : Except Malformed Layout :=
  if x = '[' then l.openFlow .flowSequenceStart
  else if x = '\x7b' then l.openFlow .flowMappingStart
  else if x = ']' then l.closeFlow .flowSequenceEnd
  else if x = '\x7d' then l.closeFlow .flowMappingEnd
  else if x = ',' then do
    let l ← l.dropCandidate
    { l with keyAllowed := true }.putMark .flowEntry
  else if x = '?' ∧ (l.flow ≠ 0 ∨ l.cursor.gapAt 1) then
    l.blockMark .blockMappingStart .key (l.flow == 0)
  else if x = ':' ∧ (l.flow ≠ 0 ∨ l.cursor.gapAt 1) then l.valueMark
  else if x = '*' then l.inlinePart anchorName .reference
  else if x = '&' then l.inlinePart anchorName .anchor
  else if x = '!' then l.inlinePart tag .tag
  else if (x = '|' ∨ x = '>') ∧ l.flow = 0 then l.blockScalar (x == '>')
  else if x = '\'' ∨ x = '"' then l.inlinePart (quoted x) (.scalar · true)
  else if l.beginsPlain then l.plainScalar
  else .error ⟨⟩

/-- Cut off the next part. -/
def cut (l : Layout) : Except Malformed Layout := do
  let line := l.cursor.line
  let (keyAllowed, l) ← l.scan do
    Scan.need 1
    Gap.pass (l.flow != 0) (l.cursor.rest.length + 1) l.keyAllowed
  let l := { l with keyAllowed }.dedent l.cursor.column line
  let ((), l) ← l.scan (Scan.need 4)
  match l.cursor.peek? 0 with
  | none =>
    let newLine := l.cursor.column != 0
    let cursor := { l.cursor with
      line := if newLine then l.cursor.line + 1 else l.cursor.line
      column := 0 }
    let l ← { l with cursor }.boundary
    return l.push (l.lexeme .streamEnd)
  | some x =>
    if l.cursor.column = 0 ∧ x = '%' then (← l.boundary).put directive .directive
    else if l.cursor.atMarker '-' then (← l.boundary).put (Scan.skip 3) fun _ => .documentStart
    else if l.cursor.atMarker '.' then (← l.boundary).put (Scan.skip 3) fun _ => .documentEnd
    else if x = '-' ∧ l.cursor.gapAt 1 then l.blockMark .blockSequenceStart .blockEntry true
    else
      let l ← l.part x
      let ((), l) ← l.scan Gap.passLineComment
      return l

/-- Whether the first lexeme of the queue has to wait, as it may be a key. -/
def pending (l : Layout) : Except Malformed Bool :=
  match (l.candidate :: l.outerCandidates).find? fun c => c.awaited && c.number == l.given with
  | none => .ok false
  | some c => l.reaches c

/-- Cut off parts until the first lexeme of the queue can be handed out. -/
def settle : Nat → Layout → Except Malformed Layout
  | 0, _ => .error ⟨⟩
  | n + 1, l => do
    if l.queue.length < 3 || (← l.pending) then settle n (← l.cut) else return l

/-- Hand out lexemes as long as that is possible, `n` at most. -/
def handOut : Nat → Layout → List Lexeme
  | 0, _ => []
  | n + 1, l =>
    match l.settle (l.cursor.rest.length + 5) with
    | .error _ => []
    | .ok l =>
      match l.queue with
      | [] => []
      | x :: queue =>
        if x.kind = .streamEnd then [x]
        else x :: handOut n { l with queue, given := l.given + 1 }

end Layout

/-- The lexemes of a document.  They end with the end of the document, or before the first one that
cannot be handed out. -/
def lexemes (s : Source) : List Lexeme :=
  Layout.handOut (4 * s.chars.length + 8) (.start s)

end Scriptlet.Yaml
