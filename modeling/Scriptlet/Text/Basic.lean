/-!
# Scriptlet.Text.Basic — byte strings

Source text, tokens, names, values and messages are sequences of bytes.  Nothing obliges them to be
valid UTF-8, so they are lists of bytes; a string literal stands for its UTF-8 bytes.
-/

namespace Scriptlet

/-- A byte string. -/
abbrev Text := List UInt8

/-- The bytes of a string literal. -/
def utf8 (s : String) : Text := s.toByteArray.data.toList

instance : Coe String Text := ⟨utf8⟩

namespace Text

/-- The text of one character. -/
def ofChar (c : Char) : Text := String.utf8EncodeChar c

/-- The text of a list of characters. -/
def ofChars (cs : List Char) : Text := cs.flatMap ofChar

/-- The decimal numeral of a natural number. -/
def ofNat (n : Nat) : Text := ofChars (Nat.toDigits 10 n)

/-- The decimal numeral of an integer, with a minus sign below zero. -/
def ofInt : Int → Text
  | .ofNat n => ofNat n
  | .negSucc n => utf8 "-" ++ ofNat (n + 1)

/-- The parts in order, with `separator` between neighbours. -/
def join (separator : Text) : List Text → Text
  | [] => []
  | [t] => t
  | t :: u :: ts => t ++ separator ++ join separator (u :: ts)

/-- Each part followed by a line feed. -/
def unlines (ts : List Text) : Text := ts.flatMap (· ++ [0x0A])

/-- `t` with every occurrence of `old` replaced by `new`, from left to right and without overlap.
An empty `old` occurs nowhere.  The counter is the number of bytes of a found occurrence that are
still to be passed over. -/
def replaceFrom (old new : Text) : Nat → Text → Text
  | _, [] => []
  | n + 1, _ :: t => replaceFrom old new n t
  | 0, b :: t =>
    if old ≠ [] ∧ old.isPrefixOf (b :: t) then new ++ replaceFrom old new (old.length - 1) t
    else b :: replaceFrom old new 0 t

/-- `t` with every occurrence of `old` replaced by `new`. -/
def replace (old new t : Text) : Text := replaceFrom old new 0 t

/-- The stretches of `t` between occurrences of `mark`, one more than there are occurrences. -/
def split (mark : UInt8) : Text → List Text
  | [] => [[]]
  | b :: t =>
    if b = mark then [] :: split mark t
    else match split mark t with
      | [] => [[b]]
      | part :: parts => (b :: part) :: parts

/-- The lines of `t`: the stretches between line feeds. -/
def lines (t : Text) : List Text := split 0x0A t

/-- Bytewise lexicographic order. -/
def lt : Text → Text → Bool
  | _, [] => false
  | [], _ :: _ => true
  | a :: s, b :: t => a < b || (a == b && lt s t)

end Text

end Scriptlet
