/-!
# Scriptlet.Yaml.Number — which plain scalars are numbers
-/

namespace Scriptlet.Yaml

/-- Text after an optional sign, and whether the sign is a minus. -/
def unsigned : List Char → Bool × List Char
  | '-' :: cs => (true, cs)
  | '+' :: cs => (false, cs)
  | cs => (false, cs)

/-- The value of a digit below the base. -/
def digitBelow? (base : Nat) (c : Char) : Option Nat :=
  if c.isDigit then if c.toNat - 48 < base then some (c.toNat - 48) else none
  else if base = 16 ∧ 'a' ≤ c.toLower ∧ c.toLower ≤ 'f' then some (c.toLower.toNat - 87)
  else none

/-- The number that digits of a base denote. -/
def digits? (base : Nat) (cs : List Char) : Option Nat :=
  if cs = [] then none else cs.foldlM (fun n c => (digitBelow? base c).map (n * base + ·)) 0

/-! ### Integers -/

/-- The number that an integer without a sign denotes: decimal, or with the mark of another base, or
octal after a zero. -/
def magnitude? : List Char → Option Nat
  | '0' :: x :: cs =>
    if x = 'x' ∨ x = 'X' then digits? 16 cs
    else if x = 'o' ∨ x = 'O' then digits? 8 cs
    else if x = 'b' ∨ x = 'B' then digits? 2 cs
    else digits? 8 (x :: cs)
  | cs => digits? 10 cs

/-- Whether a number fits into 64 bits with a sign. -/
def fitsSigned (negative : Bool) (n : Nat) : Bool :=
  if negative then n ≤ 0x8000000000000000 else n < 0x8000000000000000

/-- Whether a text is an integer with a sign behind the mark of its base. -/
def isMarkedInt (base : Nat) (cs : List Char) : Bool :=
  let (negative, body) := unsigned cs
  (digits? base body).any (fitsSigned negative)

/-- Whether a text is an integer that fits into 64 bits, with a sign or without one. -/
def isInt (cs : List Char) : Bool :=
  let (negative, body) := unsigned cs
  let fits := (magnitude? body).any fun n =>
    if body = cs then n < 0x10000000000000000 else fitsSigned negative n
  fits || match cs with
    | '0' :: 'b' :: rest => isMarkedInt 2 rest
    | '0' :: 'o' :: rest => isMarkedInt 8 rest
    | _ => false

/-- Whether an integer is too large for 64 bits with a sign. -/
def isWide (cs : List Char) : Bool := (magnitude? cs).any (0x8000000000000000 ≤ ·)

/-! ### Numbers with a point -/

/-- The exponent that a text is, or zero for nothing at all. -/
def exponent? : List Char → Option Int
  | [] => some 0
  | c :: cs =>
    let (negative, body) := unsigned cs
    if c = 'e' ∨ c = 'E' then
      (digits? 10 body).map fun n => if negative then -(n : Int) else n
    else none

/-- A decimal number as a whole number and the power of ten it is multiplied by. -/
def decimal? (cs : List Char) : Option (Nat × Int) :=
  let (_, body) := unsigned cs
  let whole := body.takeWhile Char.isDigit
  let (fraction, rest) := match body.dropWhile Char.isDigit with
    | '.' :: rest => (rest.takeWhile Char.isDigit, rest.dropWhile Char.isDigit)
    | rest => ([], rest)
  match digits? 10 (whole ++ fraction), exponent? rest with
  | some n, some e => some (n, e - fraction.length)
  | _, _ => none

/-- The least number that is too large for the binary format of 64 bits: half a unit in the last
place above the largest one of the format. -/
def overflow : Nat := Nat.pow 2 1024 - Nat.pow 2 970

/-- Whether a number is below the overflow.  Its digits are counted first, so that no power of ten
beyond reason is computed. -/
def inRange (n : Nat) (e : Int) : Bool :=
  if n = 0 then true
  else
    let digits : Int := (Nat.toDigits 10 n).length
    if 310 < digits + e then false
    else if digits + e < 300 then true
    else if 0 ≤ e then n * Nat.pow 10 e.toNat < overflow
    else n < overflow * Nat.pow 10 (-e).toNat

/-- Whether a text is a decimal number in range, with a point or an exponent or neither. -/
def isFloat (cs : List Char) : Bool := (decimal? cs).any fun (n, e) => inRange n e

/-- Whether every underscore of a text stands between two digits. -/
def underscoresFit : (afterDigit : Bool) → List Char → Bool
  | _, [] => true
  | afterDigit, '_' :: c :: cs => afterDigit && c.isDigit && underscoresFit false (c :: cs)
  | _, '_' :: [] => false
  | _, c :: cs => underscoresFit c.isDigit cs

end Scriptlet.Yaml
