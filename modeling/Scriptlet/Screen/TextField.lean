import Scriptlet.Screen.Block
import Scriptlet.Screen.Key
import Scriptlet.Text.Blank

/-!
# Scriptlet.Screen.TextField — a line of text under edit

The field shows a stretch of its characters that fits into its width and has the cursor in it.  The
stretch moves only when the cursor would leave it, so which one is shown depends on how the cursor
got to its place.
-/

namespace Scriptlet

/-! ### The columns of single characters, by which a field chooses what to show -/

namespace CharColumns

/-- Characters that combine with the one before them. -/
def combining : List (Nat × Nat) := [
  (0x300, 0x36F), (0x483, 0x487), (0x7EB, 0x7F3), (0xC00, 0xC00), (0xC04, 0xC04), (0xD00, 0xD01),
  (0x135D, 0x135F), (0x1A7F, 0x1A7F), (0x1AB0, 0x1ACE), (0x1B6B, 0x1B73), (0x1DC0, 0x1DFF),
  (0x20D0, 0x20F0), (0x2CEF, 0x2CF1), (0x2DE0, 0x2DFF), (0x3099, 0x309A), (0xA66F, 0xA672),
  (0xA674, 0xA67D), (0xA69E, 0xA69F), (0xA6F0, 0xA6F1), (0xA8E0, 0xA8F1), (0xFE20, 0xFE2F),
  (0x101FD, 0x101FD), (0x10376, 0x1037A), (0x10EAB, 0x10EAC), (0x10F46, 0x10F50),
  (0x10F82, 0x10F85), (0x11300, 0x11301), (0x1133B, 0x1133C), (0x11366, 0x1136C),
  (0x11370, 0x11374), (0x16AF0, 0x16AF4), (0x1CF00, 0x1CF2D), (0x1CF30, 0x1CF46),
  (0x1D165, 0x1D169), (0x1D16D, 0x1D172), (0x1D17B, 0x1D182), (0x1D185, 0x1D18B),
  (0x1D1AA, 0x1D1AD), (0x1D242, 0x1D244), (0x1E000, 0x1E006), (0x1E008, 0x1E018),
  (0x1E01B, 0x1E021), (0x1E023, 0x1E024), (0x1E026, 0x1E02A), (0x1E08F, 0x1E08F),
  (0x1E8D0, 0x1E8D6)]

/-- Characters that are not shown. -/
def hidden : List (Nat × Nat) := [
  (0x0, 0x1F), (0x7F, 0x9F), (0xAD, 0xAD), (0x70F, 0x70F), (0x180B, 0x180E), (0x200B, 0x200F),
  (0x2028, 0x202E), (0x206A, 0x206F), (0xFEFF, 0xFEFF), (0xFFF9, 0xFFFB), (0xFFFE, 0xFFFF)]

/-- The columns of a character. -/
def ofChar (c : Char) : Nat :=
  if BreakClass.covers hidden c.toNat then 0
  else if c.toNat < 0x300 then 1
  else if BreakClass.covers combining c.toNat then 0
  else if BreakClass.covers Columns.wide c.toNat then 2
  else 1

end CharColumns

/-- A text field of one line. -/
structure TextField where
  chars : List Char := []
  /-- The number of characters before the cursor. -/
  cursor : Nat := 0
  /-- The characters from `first` up to `last` are shown. -/
  first : Nat := 0
  last : Nat := 0
  /-- The columns for the text; zero stands for no limit. -/
  width : Nat := 0
  /-- Whether keys go to the field. -/
  focused : Bool := false
  deriving DecidableEq, Repr

namespace TextField

/-- The number of characters that fit into a field. -/
def capacity : Nat := 4096

/-- What has been entered. -/
def value (f : TextField) : Text := Text.ofChars f.chars

/-- The field that keys go to. -/
def focus (f : TextField) : TextField := { f with focused := true }

/-- The field that no keys go to. -/
def blur (f : TextField) : TextField := { f with focused := false }

/-! ### Scrolling -/

/-- How many of the characters fit after `used` columns, one column beyond the width included. -/
def fitAfter (width : Nat) : (used : Nat) → List Char → Nat
  | _, [] => 0
  | used, c :: cs =>
    let used' := used + CharColumns.ofChar c
    if used ≤ width ∧ used' ≤ width + 1 then fitAfter width used' cs + 1 else 0

/-- How many of the characters fit into the columns that are left, counted from the cursor back. -/
def fitBefore (width : Nat) : (used : Nat) → List Char → Nat
  | _, [] => 0
  | used, c :: cs =>
    let used' := used + CharColumns.ofChar c
    if used < width ∧ used' ≤ width then fitBefore width used' cs + 1 else 0

/-- Choose the characters to show. -/
def scroll (f : TextField) : TextField :=
  if f.width = 0 ∨ f.value.columns ≤ f.width then { f with first := 0, last := f.chars.length }
  else
    let last := min f.last f.chars.length
    if f.cursor < f.first then
      { f with first := f.cursor, last := f.cursor + fitAfter f.width 0 (f.chars.drop f.cursor) }
    else if last ≤ f.cursor then
      let before := ((f.chars.take f.cursor).drop 1).reverse
      { f with first := f.cursor - fitBefore f.width 0 before, last := f.cursor }
    else { f with last }

/-- Put the cursor after so many characters, or at the end if there are fewer. -/
def moveTo (f : TextField) (cursor : Nat) : TextField :=
  { f with cursor := min cursor f.chars.length }.scroll

/-- Replace the characters, as many as fit.  The cursor goes to the end if it has to, or if the
field was empty. -/
def setChars (f : TextField) (chars : List Char) : TextField :=
  let f' := { f with chars := chars.take capacity }
  if (f.cursor = 0 ∧ f.chars = []) ∨ f'.chars.length < f.cursor then
    (f'.moveTo f'.chars.length).scroll
  else f'.scroll

/-- The field with nothing in it. -/
def clear (f : TextField) : TextField := f.setChars []

@[simp] theorem chars_scroll (f : TextField) : f.scroll.chars = f.chars := by
  unfold scroll
  dsimp only
  repeat' split
  all_goals rfl

@[simp] theorem focused_scroll (f : TextField) : f.scroll.focused = f.focused := by
  unfold scroll
  dsimp only
  repeat' split
  all_goals rfl

@[simp] theorem chars_moveTo (f : TextField) (n : Nat) : (f.moveTo n).chars = f.chars := by
  simp [moveTo]

@[simp] theorem focused_moveTo (f : TextField) (n : Nat) : (f.moveTo n).focused = f.focused := by
  simp [moveTo]

@[simp] theorem chars_setChars (f : TextField) (cs : List Char) :
    (f.setChars cs).chars = cs.take capacity := by
  unfold setChars
  dsimp only
  split <;> simp

@[simp] theorem focused_setChars (f : TextField) (cs : List Char) :
    (f.setChars cs).focused = f.focused := by
  unfold setChars
  dsimp only
  split <;> simp

@[simp] theorem value_clear (f : TextField) : f.clear.value = [] := by
  simp [value, clear, Text.ofChars]

@[simp] theorem focused_clear (f : TextField) : f.clear.focused = f.focused := by simp [clear]

@[simp] theorem value_focus (f : TextField) : f.focus.value = f.value := rfl

@[simp] theorem value_blur (f : TextField) : f.blur.value = f.value := rfl

@[simp] theorem focused_focus (f : TextField) : f.focus.focused = true := rfl

@[simp] theorem focused_blur (f : TextField) : f.blur.focused = false := rfl

/-! ### Editing -/

/-- What a typed character puts into a field: a space for tabs and line ends, nothing for other
control characters and for the replacement character. -/
def accept? (c : Char) : Option Char :=
  if c = '\t' ∨ c = '\n' ∨ c = '\r' then some ' '
  else if c.toNat < 0x20 ∨ (0x7F ≤ c.toNat ∧ c.toNat < 0xA0) ∨ c.toNat = 0xFFFD then none
  else some c

/-- Put characters in at the cursor, as many as fit. -/
def insert (f : TextField) (typed : List Char) : TextField :=
  let room := capacity - f.chars.length
  if room = 0 then f
  else
    let fitting := (typed.filterMap accept?).take room
    let chars := f.chars.take f.cursor ++ fitting ++ f.chars.drop f.cursor
    { f with cursor := f.cursor + fitting.length }.setChars chars

/-- Take out the characters from one place up to another. -/
def erase (f : TextField) (first last : Nat) : TextField :=
  { f with chars := f.chars.take first ++ f.chars.drop last }

/-- Whether there is white space after so many characters. -/
def blankAt (f : TextField) (n : Nat) : Bool := f.chars[n]?.any isBlank

/-- Move the cursor back from place `n` while there is white space under it. -/
def retreatBlanks : (n : Nat) → TextField → TextField
  | 0, f => f
  | n + 1, f => if f.blankAt (n + 1) then retreatBlanks n (f.moveTo n) else f

/-- Move the cursor back from place `n` to the start of the word under it. -/
def retreatWord : (n : Nat) → TextField → TextField
  | 0, f => f
  | n + 1, f => if f.blankAt (n + 1) then f.moveTo (n + 2) else retreatWord n (f.moveTo n)

/-- Move the cursor on while the characters under it are white space, or are not; `n` steps at
most. -/
def advanceWhile (blank : Bool) : (n : Nat) → TextField → TextField
  | 0, f => f
  | n + 1, f =>
    if f.cursor < f.chars.length ∧ f.blankAt f.cursor = blank then
      advanceWhile blank n (f.moveTo (f.cursor + 1))
    else f

/-- Move the cursor back while the characters before it are white space, or are not; `n` steps at
most. -/
def returnWhile (blank : Bool) : (n : Nat) → TextField → TextField
  | 0, f => f
  | n + 1, f =>
    if 0 < f.cursor ∧ f.blankAt (f.cursor - 1) = blank then
      returnWhile blank n (f.moveTo (f.cursor - 1))
    else f

/-- Move the cursor behind the word after it. -/
def wordForward (f : TextField) : TextField :=
  let n := f.chars.length
  advanceWhile false n (advanceWhile true n f)

/-- Move the cursor to the word before it. -/
def wordBackward (f : TextField) : TextField :=
  let n := f.chars.length
  returnWhile false n (returnWhile true n f)

/-- Take out the word before the cursor and the white space between. -/
def eraseWordBackward (f : TextField) : TextField :=
  if f.cursor = 0 ∨ f.chars = [] then f
  else
    let f' := f.moveTo (f.cursor - 1)
    let f' := retreatBlanks f'.cursor f'
    let f' := retreatWord f'.cursor f'
    f'.erase f'.cursor f.cursor

/-- Take out the word after the cursor and the white space between. -/
def eraseWordForward (f : TextField) : TextField :=
  if f.chars.length ≤ f.cursor then f
  else
    let n := f.chars.length
    let f' := advanceWhile false n (advanceWhile true n (f.moveTo (f.cursor + 1)))
    (f'.erase f.cursor f'.cursor).moveTo f.cursor

/-- The ways to edit a field. -/
inductive Edit where
  | forward
  | backward
  | wordForward
  | wordBackward
  | toStart
  | toEnd
  | erase
  | eraseBackward
  | eraseWordForward
  | eraseWordBackward
  | eraseToStart
  | eraseToEnd
  /-- Ask for something that a field does not have. -/
  | nothing
  deriving DecidableEq, Repr

/-- The way to edit that a key stands for, by its name. -/
def Edit.ofName? (name : String) : Option Edit :=
  match name with
  | "right" | "ctrl+f" => some forward
  | "left" | "ctrl+b" => some backward
  | "alt+right" | "ctrl+right" | "alt+f" => some wordForward
  | "alt+left" | "ctrl+left" | "alt+b" => some wordBackward
  | "home" | "ctrl+a" => some toStart
  | "end" | "ctrl+e" => some toEnd
  | "delete" | "ctrl+d" => some erase
  | "backspace" | "ctrl+h" => some eraseBackward
  | "alt+delete" | "alt+d" => some eraseWordForward
  | "alt+backspace" | "ctrl+w" => some eraseWordBackward
  | "ctrl+u" => some eraseToStart
  | "ctrl+k" => some eraseToEnd
  | "ctrl+v" | "down" | "ctrl+n" | "up" | "ctrl+p" => some nothing
  | _ => none

/-- The field after an edit. -/
def edit (f : TextField) : Edit → TextField
  | .forward => if f.cursor < f.chars.length then f.moveTo (f.cursor + 1) else f
  | .backward => if 0 < f.cursor then f.moveTo (f.cursor - 1) else f
  | .wordForward => f.wordForward
  | .wordBackward => f.wordBackward
  | .toStart => f.moveTo 0
  | .toEnd => f.moveTo f.chars.length
  | .erase => if f.cursor < f.chars.length then f.erase f.cursor (f.cursor + 1) else f
  | .eraseBackward =>
    if 0 < f.cursor then (f.erase (f.cursor - 1) f.cursor).moveTo (f.cursor - 1) else f
  | .eraseWordForward => f.eraseWordForward
  | .eraseWordBackward => f.eraseWordBackward
  | .eraseToStart => { f.erase 0 f.cursor with first := 0 }.moveTo 0
  | .eraseToEnd =>
    let f' := f.erase f.cursor f.chars.length
    f'.moveTo f'.chars.length
  | .nothing => f

/-- What a key does to a field that has the focus. -/
def press (f : TextField) (key : Key) : TextField :=
  match Edit.ofName? key.name with
  | some e => (f.edit e).scroll
  | none => (f.insert key.chars).scroll

/-- The field as shown.  A cursor at the end stands on a column of its own, and the rest of the
width and one column more are blank. -/
def view (f : TextField) : Text :=
  let shown := (f.chars.take f.last).drop f.first
  let text := Text.ofChars shown
  let atEnd := shown.length ≤ f.cursor - f.first
  let text' := if atEnd then text ++ Block.spaces 1 else text
  if 0 < f.width ∧ text.columns ≤ f.width then
    text' ++ Block.spaces (f.width - text.columns + (if atEnd then 0 else 1))
  else text'

end TextField

end Scriptlet
