import Scriptlet.Screen.Block
import Scriptlet.Screen.Key

/-!
# Scriptlet.Screen.Viewport — a window on rows of text
-/

namespace Scriptlet

/-- A window of `width` columns and `height` rows, the first of which is row `offset`. -/
structure Viewport where
  width : Nat
  height : Nat
  offset : Nat := 0
  rows : List Text := []
  deriving DecidableEq, Repr

namespace Viewport

/-- The offset at which the window shows the last row at its bottom. -/
def lastOffset (v : Viewport) : Nat := v.rows.length - v.height

/-- Scroll to an offset, or as far towards it as there are rows. -/
def scrollTo (v : Viewport) (offset : Nat) : Viewport :=
  { v with offset := min offset v.lastOffset }

theorem offset_scrollTo_le (v : Viewport) (offset : Nat) :
    (v.scrollTo offset).offset ≤ (v.scrollTo offset).lastOffset :=
  Nat.min_le_right ..

/-- Scroll to the first row. -/
def toTop (v : Viewport) : Viewport := v.scrollTo 0

/-- Scroll to the last row. -/
def toBottom (v : Viewport) : Viewport := v.scrollTo v.lastOffset

@[simp] theorem offset_toTop (v : Viewport) : v.toTop.offset = 0 := Nat.zero_min _

@[simp] theorem offset_toBottom (v : Viewport) : v.toBottom.offset = v.lastOffset := Nat.min_self _

/-- Scroll up by some rows. -/
def scrollUp (v : Viewport) (n : Nat) : Viewport := v.scrollTo (v.offset - n)

/-- Scroll down by some rows. -/
def scrollDown (v : Viewport) (n : Nat) : Viewport := v.scrollTo (v.offset + n)

/-- Put a text into the window, and its end into view.  Lines may also end in a carriage return and
a line feed. -/
def display (v : Viewport) (t : Text) : Viewport :=
  { v with rows := (Text.replace [0x0D, 0x0A] [0x0A] t).lines }.toBottom

/-- What a key does to the window. -/
def press (v : Viewport) (key : Key) : Viewport :=
  match key.name with
  | "up" | "k" => v.scrollUp 1
  | "down" | "j" => v.scrollDown 1
  | "pgup" | "b" => v.scrollUp v.height
  | "pgdown" | "f" | " " => v.scrollDown v.height
  | "u" | "ctrl+u" => v.scrollUp (v.height / 2)
  | "d" | "ctrl+d" => v.scrollDown (v.height / 2)
  | _ => v

/-- The rows in the window. -/
def visible (v : Viewport) : List Text := (v.rows.drop v.offset).take v.height

/-- The window as shown: always `height` rows. -/
def view (v : Viewport) : Text := Block.window v.width v.height (Block.stack v.visible)

end Viewport

end Scriptlet
