import Scriptlet.Token.Class

/-!
# Scriptlet.Number.Integer — decimal integers of 64 bits

Integers are written in decimal, with or without a sign, and must fit into 64 bits with a sign.
Leading zeros are allowed, and nothing but digits may follow the sign.
-/

namespace Scriptlet

namespace Integer

/-- The number that a string of digits denotes. -/
def ofDigits (t : Text) : Nat := t.foldl (fun n b => n * 10 + (b.toNat - 0x30)) 0

/-- Whether an integer fits into 64 bits with a sign. -/
def InRange (n : Int) : Prop := -0x8000000000000000 ≤ n ∧ n ≤ 0x7FFFFFFFFFFFFFFF

instance (n : Int) : Decidable (InRange n) := inferInstanceAs (Decidable (_ ∧ _))

/-- The integer in range that digits without a sign denote. -/
def unsigned? (t : Text) : Option Int :=
  if Token.isIntLiteral t ∧ InRange (ofDigits t) then some (ofDigits t) else none

/-- The integer in range that a text denotes. -/
def parse? : Text → Option Int
  | [] => none
  | b :: t =>
    if b = 0x2D then
      if Token.isIntLiteral t ∧ InRange (-(ofDigits t)) then some (-(ofDigits t)) else none
    else if b = 0x2B then unsigned? t
    else unsigned? (b :: t)

end Integer

end Scriptlet
