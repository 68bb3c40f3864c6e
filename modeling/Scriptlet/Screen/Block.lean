import Scriptlet.Screen.Terminal
import Scriptlet.Screen.Wrap

/-!
# Scriptlet.Screen.Block — text in rows of one width

A block is shown in rows that all have the width of the widest one.  A block may also have a width
and a height of its own: then long rows are broken, short rows are filled up, and there are as many
rows as the height says.
-/

namespace Scriptlet

namespace Block

/-- `n` spaces. -/
def spaces (n : Nat) : Text := List.replicate n 0x20

/-- A text as shown: a tab takes four columns, and a line may also end in a carriage return and a
line feed. -/
def plain (t : Text) : Text :=
  Text.replace [0x0D, 0x0A] [0x0A] (t.flatMap fun b => if b = 0x09 then spaces 4 else [b])

/-- A row with spaces after it up to a width. -/
def fill (width : Nat) (row : Text) : Text := row ++ spaces (width - Terminal.columns row)

/-- The columns of the widest row. -/
def widest (rows : List Text) : Nat := (rows.map Terminal.columns).foldl max 0

/-- Rows filled up to a width, or to the width of the widest row if that is larger. -/
def flush (width : Nat) (rows : List Text) : List Text :=
  rows.map (fill (max width (widest rows)))

/-- Rows below each other. -/
def stack (rows : List Text) : Text := Text.join [0x0A] rows

/-- A text as a block. -/
def ofText (t : Text) : Text := stack (flush 0 (plain t).lines)

/-- A text as a block with a column of spaces on both sides. -/
def padded (t : Text) : Text :=
  stack (flush 0 ((plain t).lines.map fun row => spaces 1 ++ row ++ spaces 1))

/-- A text in a window: as many rows of as many columns. -/
def window (width height : Nat) (t : Text) : Text :=
  let t := plain t
  let rows := (if width = 0 then t else wrap width t).lines
  let rows := flush width (rows ++ List.replicate (height - rows.length) [])
  let rows := if width = 0 then rows else rows.map (Terminal.truncate width)
  stack (rows.take height)

end Block

end Scriptlet
