import Scriptlet.Text.Rune

/-!
# Scriptlet.Text.Blank — white space around a text, and the case of its letters

White space is the Unicode property of that name.  Words that select an option are compared after
trimming and lowering; as all of them are ASCII, only letters that lower to ASCII need a rule.
-/

namespace Scriptlet

/-- Unicode white space. -/
def isBlank (c : Char) : Bool :=
  let n := c.toNat
  (0x09 ≤ n && n ≤ 0x0D) || n == 0x20 || n == 0x85 || n == 0xA0 || n == 0x1680 ||
    (0x2000 ≤ n && n ≤ 0x200A) || n == 0x2028 || n == 0x2029 || n == 0x202F || n == 0x205F ||
    n == 0x3000

/-- The lower-case form of a letter where that form is ASCII: the letters A to Z, the dotted capital
I and the kelvin sign.  Every other character stands for itself. -/
def lowerAscii (c : Char) : Char :=
  if c.toNat = 0x130 then 'i' else if c.toNat = 0x212A then 'k' else c.toLower

/-- A list without the elements with property `p` at either end. -/
def trimBoth {α : Type} (p : α → Bool) (l : List α) : List α :=
  ((l.dropWhile p).reverse.dropWhile p).reverse

namespace Text

/-- The text without the white space at either end. -/
def trim (t : Text) : Text := ofRunes (trimBoth (Rune.satisfies isBlank) t.runes)

/-- The text with `lowerAscii` applied to its characters. -/
def lower (t : Text) : Text :=
  ofRunes <| t.runes.map fun
    | .scalar c => .scalar (lowerAscii c)
    | .stray b => .stray b

/-- The word that a text names when it selects an option. -/
def optionWord (t : Text) : Text := t.trim.lower

end Text

end Scriptlet
