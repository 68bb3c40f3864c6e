import Scriptlet.Text.Basic

/-!
# Scriptlet.Token.Class — the three classes of tokens with a meaning of their own

A token is an arbitrary byte string.  Identifiers, digit strings and string literals are recognised
by their bytes alone, so the grammar and the evaluator work on tokens from any source.
-/

namespace Scriptlet

/-- A token of a script. -/
abbrev Token := Text

/-- An ASCII letter or the underscore. -/
def isLetterByte (b : UInt8) : Bool :=
  b == 0x5F || (0x61 ≤ b && b ≤ 0x7A) || (0x41 ≤ b && b ≤ 0x5A)

/-- An ASCII digit. -/
def isDigitByte (b : UInt8) : Bool := 0x30 ≤ b && b ≤ 0x39

/-- A byte that may follow the first one of an identifier. -/
def isWordByte (b : UInt8) : Bool := isLetterByte b || isDigitByte b

/-- The double quote. -/
def quoteByte : UInt8 := 0x22

namespace Token

/-- A letter or underscore followed by letters, digits and underscores. -/
def isIdent : Token → Bool
  | [] => false
  | b :: t => isLetterByte b && t.all isWordByte

/-- A non-empty string of digits. -/
def isIntLiteral (t : Token) : Bool := !t.isEmpty && t.all isDigitByte

/-- The bytes between two double quotes that enclose the token. -/
def enclosed? : Token → Option Text
  | b :: c :: t =>
    if b = quoteByte ∧ (c :: t).getLast? = some quoteByte then some (c :: t).dropLast else none
  | _ => none

/-- The text of a string literal: what its quotes enclose, if that holds no line break. -/
def stringLiteral? (t : Token) : Option Text :=
  t.enclosed?.filter fun inner => inner.all fun b => b != 0x0A && b != 0x0D

/-- Enclosed in double quotes, without a line break inside. -/
def isStringLiteral (t : Token) : Bool := t.stringLiteral?.isSome

end Token

end Scriptlet
