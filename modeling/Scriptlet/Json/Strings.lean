import Scriptlet.Text.Hex
import Scriptlet.Text.Rune

/-!
# Scriptlet.Json.Strings — lists of texts written in JSON

A list of texts is an array of strings, where `null` stands for the empty text; `null` instead of an
array is the empty list.  Bytes and escapes that stand for no character become the replacement
character.
-/

namespace Scriptlet

namespace Json

/-- White space between the parts of a JSON text. -/
def isSpace (r : Rune) : Bool :=
  r.satisfies fun c => c == ' ' || c == '\t' || c == '\n' || c == '\r'

def skipSpace (rs : List Rune) : List Rune := rs.dropWhile isSpace

/-- The value of a rune that is a hexadecimal digit. -/
def digit? : Rune → Option Nat
  | .stray _ => none
  | .scalar c => hexValue? c

/-- A part of a JSON string: a character, or a number from a numeric escape. -/
inductive Unit16 where
  | char (c : Char)
  | code (n : Nat)
  deriving DecidableEq, Repr

/-- The character after a backslash in a short escape, by the character it stands for. -/
def shortEscape? (c : Char) : Option Char :=
  if c = '"' ∨ c = '\\' ∨ c = '/' then some c
  else if c = 'b' then some '\x08'
  else if c = 'f' then some '\x0c'
  else if c = 'n' then some '\n'
  else if c = 'r' then some '\r'
  else if c = 't' then some '\t'
  else none

/-- What stands for a byte or a code that is no character. -/
def replacement : Char := Char.ofNat 0xFFFD

/-- The parts of a string up to its closing quote, and the runes after it. -/
def stringParts? : List Rune → Option (List Unit16 × List Rune)
  | [] => none
  | .stray _ :: rs => do
    let (us, rest) ← stringParts? rs
    return (.char replacement :: us, rest)
  | .scalar c :: rs =>
    if c = '"' then some ([], rs)
    else if c.toNat < 0x20 then none
    else if c = '\\' then
      match rs with
      | .scalar 'u' :: d₁ :: d₂ :: d₃ :: d₄ :: rs' => do
        let n₁ ← digit? d₁
        let n₂ ← digit? d₂
        let n₃ ← digit? d₃
        let n₄ ← digit? d₄
        let (us, rest) ← stringParts? rs'
        return (.code (((n₁ * 16 + n₂) * 16 + n₃) * 16 + n₄) :: us, rest)
      | .scalar e :: rs' => do
        let c' ← shortEscape? e
        let (us, rest) ← stringParts? rs'
        return (.char c' :: us, rest)
      | _ => none
    else do
      let (us, rest) ← stringParts? rs
      return (.char c :: us, rest)

/-- Whether a code is the first half of a surrogate pair. -/
def isHighHalf (n : Nat) : Bool := 0xD800 ≤ n && n < 0xDC00

/-- Whether a code is the second half of a surrogate pair. -/
def isLowHalf (n : Nat) : Bool := 0xDC00 ≤ n && n < 0xE000

/-- The character of a surrogate pair. -/
def pair (high low : Nat) : Char := Char.ofNat (0x10000 + (high - 0xD800) * 0x400 + (low - 0xDC00))

/-- The characters that the parts of a string stand for, after a first half of a surrogate pair that
still waits for its second one.  A half that stands alone makes the replacement character. -/
def characters : (waiting : Option Nat) → List Unit16 → List Char
  | none, [] => []
  | some _, [] => [replacement]
  | none, .char c :: us => c :: characters none us
  | some _, .char c :: us => replacement :: c :: characters none us
  | none, .code n :: us =>
    if isHighHalf n then characters (some n) us
    else if isLowHalf n then replacement :: characters none us
    else Char.ofNat n :: characters none us
  | some high, .code n :: us =>
    if isLowHalf n then pair high n :: characters none us
    else if isHighHalf n then replacement :: characters (some n) us
    else replacement :: Char.ofNat n :: characters none us

/-- The runes after the word `null`. -/
def afterNull? : List Rune → Option (List Rune)
  | .scalar 'n' :: .scalar 'u' :: .scalar 'l' :: .scalar 'l' :: rs => some rs
  | _ => none

/-- A string or `null`, and the runes after it. -/
def item? : List Rune → Option (Text × List Rune)
  | .scalar '"' :: rs => do
    let (us, rest) ← stringParts? rs
    return (Text.ofChars (characters none us), rest)
  | rs => (afterNull? rs).map ([], ·)

/-- The items of an array from its first one to the closing bracket, and the runes after it.  The
number bounds how many there are. -/
def items? : Nat → List Rune → Option (List Text × List Rune)
  | 0, _ => none
  | n + 1, rs => do
    let (t, rs) ← item? (skipSpace rs)
    match skipSpace rs with
    | .scalar ',' :: rs => do
      let (ts, rest) ← items? n rs
      return (t :: ts, rest)
    | .scalar ']' :: rs => return ([t], rs)
    | _ => none

/-- The texts of an array or of `null`, and the runes after it. -/
def list? (rs : List Rune) : Option (List Text × List Rune) :=
  match rs with
  | .scalar '[' :: rs =>
    match skipSpace rs with
    | .scalar ']' :: rest => some ([], rest)
    | rs => items? rs.length rs
  | rs => (afterNull? rs).map ([], ·)

/-- The list of texts that a JSON text denotes. -/
def texts? (t : Text) : Option (List Text) := do
  let (ts, rest) ← list? (skipSpace t.runes)
  if (skipSpace rest).isEmpty then some ts else none

end Json

end Scriptlet
