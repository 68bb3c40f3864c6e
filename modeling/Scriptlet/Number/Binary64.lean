/-!
# Scriptlet.Number.Binary64 — doubles as exact numbers

A double is taken apart into its sign, an integer significand and a power of two.  In the other
direction an integer goes to the nearest double, and of two equally near ones to the even one.
-/

namespace Scriptlet

/-- A double taken apart.  A finite one is `significand * 2 ^ exponent`, negated if `negative`. -/
inductive Binary64 where
  | nan
  | infinite (negative : Bool)
  | finite (negative : Bool) (significand : Nat) (exponent : Int)
  deriving DecidableEq, Repr

namespace Binary64

/-- The parts of a bit pattern: one bit of sign, eleven of exponent, fifty-two of fraction. -/
def ofBits (bits : Nat) : Binary64 :=
  let negative := decide (Nat.pow 2 63 ≤ bits)
  let exponent : Nat := bits / Nat.pow 2 52 % Nat.pow 2 11
  let fraction : Nat := bits % Nat.pow 2 52
  if exponent = 2047 then if fraction = 0 then infinite negative else nan
  else if exponent = 0 then finite negative fraction (-1074)
  else finite negative (Nat.pow 2 52 + fraction) ((exponent : Int) - 1075)

/-- The parts of a double. -/
def ofFloat (x : Float) : Binary64 := ofBits x.toBits.toNat

/-- `n / 2 ^ s` rounded to an integer, a half to the even neighbour. -/
def shiftRound (n s : Nat) : Nat :=
  let unit := Nat.pow 2 s
  let quotient := n / unit
  let remainder := n % unit
  if unit < 2 * remainder ∨ (unit = 2 * remainder ∧ quotient % 2 = 1) then quotient + 1
  else quotient

/-- The significand of the nearest double, scaled so that it lies between `2 ^ 52` and `2 ^ 53`. -/
def scaledSignificand (n : Nat) : Nat :=
  if n.log2 ≤ 52 then n * Nat.pow 2 (52 - n.log2) else shiftRound n (n.log2 - 52)

/-- The bit pattern of the double nearest to `n`, for `n` below `2 ^ 1023`.  A significand that was
rounded up to `2 ^ 53` carries into the exponent. -/
def nearestBits (n : Nat) : Nat :=
  if n = 0 then 0 else (n.log2 + 1022) * Nat.pow 2 52 + scaledSignificand n

/-- The double nearest to an integer. -/
def ofInt (n : Int) : Float :=
  Float.ofBits (UInt64.ofNat ((if n < 0 then Nat.pow 2 63 else 0) + nearestBits n.natAbs))

end Binary64

end Scriptlet
