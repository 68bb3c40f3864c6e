/-!
# Scriptlet.Number.Shortest — the shortest decimal that stands for a value

A value of a binary format stands for all reals that round to it.  Of the decimals among them the
one with the fewest digits is shown, and of several with as few digits the nearest to the value.

For a power of ten `10 ^ k` the only multiples that matter are the two next to the value: if any
multiple stands for the value, one of these does.  So the search goes through the powers of ten from
above the value downwards and stops at the first that has a multiple standing for the value.
-/

namespace Scriptlet

/-- The number `digits * 10 ^ exponent`. -/
structure Decimal where
  digits : Nat
  exponent : Int
  deriving DecidableEq, Repr

namespace Decimal

def toRat (d : Decimal) : Rat := d.digits * (10 : Rat) ^ d.exponent

/-- The decimal numeral without an exponent: zeros fill the places up to the point, and there is no
point if nothing follows it. -/
def positional (d : Decimal) : List Char :=
  let digits := Nat.toDigits 10 d.digits
  if 0 ≤ d.exponent then digits ++ List.replicate d.exponent.toNat '0'
  else
    let places := (-d.exponent).toNat
    let padded := List.replicate (places + 1 - digits.length) '0' ++ digits
    padded.take (padded.length - places) ++ '.' :: padded.drop (padded.length - places)

end Decimal

/-- A positive value and the reals that stand for it: those between `low` and `high`, which
themselves count if `closed`. -/
structure Neighbourhood where
  value : Rat
  low : Rat
  high : Rat
  closed : Bool

namespace Neighbourhood

/-- Whether a real stands for the value. -/
def contains (n : Neighbourhood) (x : Rat) : Bool :=
  if n.closed then n.low ≤ x && x ≤ n.high else n.low < x && x < n.high

/-- The two multiples of `10 ^ k` next to the value, the nearer one first and the even one first if
both are equally near. -/
def candidates (n : Neighbourhood) (k : Int) : Decimal × Decimal :=
  let quotient := n.value / (10 : Rat) ^ k
  let below := quotient.floor.toNat
  let nearBelow := quotient - below < 1 / 2 || (quotient - below == 1 / 2 && below % 2 == 0)
  if nearBelow then (⟨below, k⟩, ⟨below + 1, k⟩) else (⟨below + 1, k⟩, ⟨below, k⟩)

/-- The search through `count` powers of ten from `10 ^ k` downwards.  If none of them has a
multiple that stands for the value, the nearest multiple of the next one is taken. -/
def search (n : Neighbourhood) : (count : Nat) → (k : Int) → Decimal
  | 0, k => (n.candidates k).1
  | count + 1, k =>
    let (near, far) := n.candidates k
    if n.contains near.toRat then near
    else if n.contains far.toRat then far
    else n.search count (k - 1)

/-- What stands for the double `significand * 2 ^ exponent`: up to half of the distance to the next
double on either side.  Below a power of two the next double is half as far away. -/
def ofDouble (significand : Nat) (exponent : Int) : Neighbourhood :=
  let unit := (2 : Rat) ^ exponent
  let value := significand * unit
  let narrow := significand = Nat.pow 2 52 ∧ -1074 < exponent
  { value
    low := value - (if narrow then unit / 4 else unit / 2)
    high := value + unit / 2
    closed := significand % 2 == 0 }

end Neighbourhood

/-- A power of ten above `significand * 2 ^ exponent`, by its exponent.  The factor is a decimal
approximation of the logarithm of two from above. -/
def powerAbove (significand : Nat) (exponent : Int) : Int :=
  (significand.log2 + 1 + exponent) * 30103 / 100000 + 1

/-- The shortest decimal that stands for the positive double `significand * 2 ^ exponent`.  It has
at most seventeen digits, and the first power of ten tried is at most two places above them. -/
def shortestDecimal (significand : Nat) (exponent : Int) : Decimal :=
  (Neighbourhood.ofDouble significand exponent).search 20 (powerAbove significand exponent)

end Scriptlet
