import Scriptlet.Text.Hex
import Scriptlet.Text.Printable
import Scriptlet.Text.Rune

/-!
# Scriptlet.Text.Quote — double-quoted form of a text in messages

Printable characters stand for themselves, the usual control characters have letter escapes, other
control characters and stray bytes are written with two hexadecimal digits, and every other
character with four or eight.
-/

namespace Scriptlet

namespace Rune

/-- The letter after the backslash in the short escape of a character. -/
def escapeLetter? (c : Char) : Option Char :=
  match c.toNat with
  | 0x07 => some 'a'
  | 0x08 => some 'b'
  | 0x09 => some 't'
  | 0x0A => some 'n'
  | 0x0B => some 'v'
  | 0x0C => some 'f'
  | 0x0D => some 'r'
  | 0x22 => some '"'
  | 0x5C => some '\\'
  | _ => none

/-- How a rune is written inside quotes. -/
def quoted : Rune → List Char
  | .stray b => '\\' :: 'x' :: hexDigits 2 b.toNat
  | .scalar c =>
    match escapeLetter? c with
    | some l => ['\\', l]
    | none =>
      if isPrintable c then [c]
      else if c.toNat < 0x20 ∨ c.toNat = 0x7F then '\\' :: 'x' :: hexDigits 2 c.toNat
      else if c.toNat < 0x10000 then '\\' :: 'u' :: hexDigits 4 c.toNat
      else '\\' :: 'U' :: hexDigits 8 c.toNat

end Rune

/-- The text between double quotes, with escapes. -/
def Text.quote (t : Text) : Text :=
  utf8 "\"" ++ ofChars (t.runes.flatMap Rune.quoted) ++ utf8 "\""

end Scriptlet
