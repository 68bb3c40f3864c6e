import Scriptlet.Screen.Sequence

/-!
# Scriptlet.Screen.Wrap — long rows broken into several

Rows are broken at spaces and after hyphens, and inside of words only where a word alone is too
long. At each break the pen is put down and taken up again, and so is a link, so that every row can
be shown on its own.
-/

namespace Scriptlet

/-- Where a link leads and what is said about it. -/
structure Link where
  parameters : Text := []
  target : Text := []
  deriving DecidableEq, Repr

namespace Link

/-- The link that the data of a control sequence set: three parts between semicolons. -/
def read (l : Link) (data : Text) : Link :=
  match Text.split 0x3B data with
  | [_, parameters, target] => ⟨parameters, target⟩
  | _ => l

/-- The control sequence that begins a link. -/
def sequence (l : Link) : Text :=
  utf8 "\x1b]8;" ++ l.parameters ++ utf8 ";" ++ l.target ++ utf8 "\x07"

end Link

/-- The state of the breaking of rows. -/
structure Wrap where
  output : Array UInt8 := #[]
  /-- The columns used in the current row. -/
  used : Nat := 0
  /-- Spaces that are written only if something follows them in the row. -/
  spaces : Text := []
  word : Text := []
  wordColumns : Nat := 0
  /-- The pen and the link at the end of the word. -/
  pen : Pen := {}
  link : Link := {}
  /-- The pen and the link at the end of the output. -/
  outputPen : Pen := {}
  outputLink : Link := {}

namespace Wrap

/-- Write a text. -/
def put (w : Wrap) (t : Text) : Wrap := { w with output := w.output.appendList t }

/-- Write the spaces. -/
def flushSpaces (w : Wrap) : Wrap :=
  { w.put w.spaces with used := w.used + w.spaces.length, spaces := [] }

/-- Write the spaces and the word. -/
def flushWord (w : Wrap) : Wrap :=
  if w.word = [] then w
  else
    let w := { w with outputLink := w.link, outputPen := w.pen }.flushSpaces
    { w.put w.word with used := w.used + w.wordColumns, word := [], wordColumns := 0 }

/-- End the row. -/
def newRow (w : Wrap) : Wrap :=
  let penDown := if w.outputPen = {} then [] else Pen.reset
  let linkEnd := if w.outputLink = {} then [] else Link.sequence {}
  let linkBegin := if w.outputLink = {} then [] else w.outputLink.sequence
  let penUp := if w.outputPen = {} then [] else w.outputPen.sequence
  { w.put (penDown ++ linkEnd ++ [0x0A] ++ linkBegin ++ penUp) with used := 0, spaces := [] }

/-- Write the spaces at the end of a row, if no word is begun and they fit. -/
def endSpaces (limit : Nat) (w : Wrap) : Wrap :=
  if w.wordColumns = 0 then
    if limit < w.used + w.spaces.length then { w with used := 0, spaces := [] }
    else { w.put w.spaces with spaces := [] }
  else w

/-- Take up a part that takes columns into the word. -/
def extendWord (limit : Nat) (w : Wrap) (p : Piece) : Wrap :=
  let w := if limit < w.wordColumns + p.columns then w.flushWord else w
  let w := { w with word := w.word ++ p.text, wordColumns := w.wordColumns + p.columns }
  if limit < w.used + w.wordColumns + w.spaces.length then w.newRow else w

/-- Take up the next part. -/
def add (limit : Nat) (w : Wrap) (p : Piece) : Wrap :=
  if p.columns = 0 then
    if p.text = [0x09] then { w.flushWord with spaces := w.flushWord.spaces ++ p.text }
    else if p.text = [0x0A] then (w.endSpaces limit).flushWord.newRow
    else
      let w := match p.meaning with
        | .none => w
        | .pen parameters => { w with pen := w.pen.apply parameters }
        | .link data => { w with link := w.link.read data }
      { w with word := w.word ++ p.text }
  else if p.text = [0x20] ∧ !w.pen.marksSpaces then
    { w.flushWord with spaces := w.flushWord.spaces ++ p.text }
  else if p.text = [0x2D] then
    let w := w.flushSpaces
    if w.used + w.wordColumns + p.columns ≤ limit then
      let w := w.flushWord.put p.text
      { w with used := w.used + p.columns }
    else w.extendWord limit p
  else w.extendWord limit p

/-- The end of the text. -/
def finish (limit : Nat) (w : Wrap) : Text :=
  let w := (w.endSpaces limit).flushWord
  let linkEnd := if w.outputLink = {} then [] else Link.sequence {}
  let penDown := if w.outputPen = {} then [] else Pen.reset
  (w.put (linkEnd ++ penDown)).output.toList

end Wrap

/-- A text with its rows broken so that they fit into a number of columns, which is not zero. -/
def wrap (limit : Nat) (t : Text) : Text :=
  ((Piece.all t).foldl (Wrap.add limit) {}).finish limit

end Scriptlet
