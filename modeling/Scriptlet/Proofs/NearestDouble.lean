import Mathlib
import Scriptlet.Number.Binary64

/-!
# Scriptlet.Proofs.NearestDouble — an integer goes to the nearest double

An integer whose magnitude lies between two powers of two is rounded to a multiple of the distance
between doubles there.  Every double beyond the lower power is such a multiple, and every other one
is further away than this power, so no double is nearer than the multiple chosen
(`Binary64.isNearest_ofInt`).

That a double gives back the bits it was made of (`Float.Model.UnpackedFloat.pack_unpack`) is a fact
that only the root module of the library brings in, hence the import of all of it.
-/

namespace Scriptlet

namespace Binary64

/-- The number with these parts. -/
def signed (negative : Bool) (significand : Nat) (exponent : Int) : Rat :=
  (if negative then -1 else 1) * (significand * (2 : Rat) ^ exponent)

/-- The number that a finite double stands for. -/
def toRat? : Binary64 → Option Rat
  | finite negative significand exponent => some (signed negative significand exponent)
  | infinite _ | nan => none

theorem toRat?_eq_some {x : Binary64} {v : Rat} (h : x.toRat? = some v) :
    ∃ negative significand exponent, x = finite negative significand exponent ∧
      signed negative significand exponent = v := by
  cases x with
  | finite negative significand exponent => exact ⟨_, _, _, rfl, Option.some.inj h⟩
  | infinite _ | nan => cases h

/-- The double `x` is the one nearest to `q`: no finite double is nearer, the last bit of `x` is zero
if another one is as near, and `x` is negative just if `q` is. -/
def IsNearest (x : Float) (q : Rat) : Prop :=
  ∃ negative significand exponent, ofFloat x = finite negative significand exponent ∧
    negative = decide (q < 0) ∧
    ∀ (y : Float) (v : Rat), (ofFloat y).toRat? = some v →
      |signed negative significand exponent - q| ≤ |v - q| ∧
      (|signed negative significand exponent - q| = |v - q| →
        v = signed negative significand exponent ∨ significand % 2 = 0)

/-! ### Bits -/

/-- A bit pattern that is not that of a special value makes a double and is read back from it. -/
theorem ofFloat_ofBits {bits : Nat} (hbits : bits < 2 ^ 64) (hfinite : bits / 2 ^ 52 % 2 ^ 11 ≠ 2047) :
    ofFloat (Float.ofBits (UInt64.ofNat bits)) = ofBits bits := by
  have hnat : (UInt64.ofNat bits).toNat = bits := Nat.mod_eq_of_lt hbits
  have hnan : @Float.Model.UnpackedFloat.isNaNBits .binary64 (UInt64.ofNat bits).toBitVec = false := by
    rw [Float.Model.UnpackedFloat.isNaNBits, decide_eq_false_iff_not,
      Float.Model.UnpackedFloat.unpackExponent_def]
    rintro ⟨hexponent, -⟩
    have hfield := congrArg BitVec.toNat hexponent
    rw [BitVec.extractLsb'_toNat, Nat.shiftRight_eq_div_pow, UInt64.toNat_toBitVec, hnat] at hfield
    exact hfinite hfield
  have hback : (Float.ofBits (UInt64.ofNat bits)).toBits = UInt64.ofNat bits := by
    show UInt64.ofBitVec (Float.Model.UnpackedFloat.pack .binary64
      (Float.Model.UnpackedFloat.unpack .binary64 (UInt64.ofNat bits).toBitVec)) = _
    rw [Float.Model.UnpackedFloat.pack_unpack, hnan]
    rfl
  rw [ofFloat, hback, hnat]

theorem significand_lt {bits significand : Nat} {negative : Bool} {exponent : Int}
    (h : ofBits bits = finite negative significand exponent) : significand < 2 ^ 53 := by
  have hfraction : bits % 2 ^ 52 < 2 ^ 52 := Nat.mod_lt _ (by norm_num)
  simp only [ofBits, Nat.pow_eq] at h
  split at h
  · split at h <;> cases h
  split at h <;> cases h <;> omega

/-- The parts of a double with a significand that may have been rounded up to `2 ^ 53`. -/
def carried (negative : Bool) (significand : Nat) (exponent : Int) : Binary64 :=
  if significand = 2 ^ 53 then finite negative (2 ^ 52) (exponent + 1)
  else finite negative significand exponent

theorem ofBits_carried (negative : Bool) {n significand : Nat} (hn : n < 1023)
    (hlow : 2 ^ 52 ≤ significand) (hhigh : significand ≤ 2 ^ 53) :
    ofFloat (Float.ofBits (UInt64.ofNat ((if negative then 2 ^ 63 else 0) +
      ((n + 1022) * 2 ^ 52 + significand)))) = carried negative significand (n - 52) := by
  obtain ⟨sign, hsign, hnegative⟩ : ∃ sign, (if negative then 2 ^ 63 else 0) = sign ∧
      (negative = true ∧ sign = 2 ^ 63 ∨ negative = false ∧ sign = 0) := by
    cases negative <;> simp
  have hbit : decide (2 ^ 63 ≤ sign + ((n + 1022) * 2 ^ 52 + significand)) = negative := by
    obtain ⟨rfl, rfl⟩ | ⟨rfl, rfl⟩ := hnegative
    · exact decide_eq_true (by omega)
    · exact decide_eq_false (by omega)
  rw [hsign, ofFloat_ofBits (by omega) (by omega)]
  simp only [ofBits, Nat.pow_eq]
  rw [hbit, if_neg (by omega), if_neg (by omega), carried]
  split <;> congr 1 <;> omega

/-! ### Rounding -/

/-- How far the multiples of `u` below and above `q * u + r` are from it. -/
theorem multiple_distance {u q r : Int} (hlow : 0 ≤ r) (hhigh : r < u) (k : Int) :
    (k ≤ q ∧ r ≤ |k * u - (q * u + r)| ∧ (r = |k * u - (q * u + r)| → k = q)) ∨
      (q + 1 ≤ k ∧ u - r ≤ |k * u - (q * u + r)| ∧ (u - r = |k * u - (q * u + r)| → k = q + 1)) := by
  have hdiff : k * u - (q * u + r) = (k - q) * u - r := by ring
  rw [hdiff]
  obtain hk | hk := le_or_gt (k - q) 0
  · left
    have hmul : (k - q) * u ≤ 0 := mul_nonpos_of_nonpos_of_nonneg hk (by omega)
    rw [abs_of_nonpos (by omega)]
    refine ⟨by omega, by omega, fun h => ?_⟩
    have hzero : (k - q) * u = 0 := by omega
    obtain hzero | hzero := mul_eq_zero.1 hzero <;> omega
  · right
    have hmul : 1 * u ≤ (k - q) * u := mul_le_mul_of_nonneg_right (by omega) (by omega)
    rw [one_mul] at hmul
    rw [abs_of_nonneg (by omega)]
    refine ⟨by omega, by omega, fun h => ?_⟩
    have hone : (k - q) * u = 1 * u := by omega
    have := mul_right_cancel₀ (by omega) hone
    omega

/-- No multiple of `2 ^ s` is nearer to `n` than the one chosen, and if another one is as near, the
one chosen is even. -/
theorem shiftRound_nearest (n s : Nat) (k : Int) :
    |(shiftRound n s : Int) * 2 ^ s - n| ≤ |k * 2 ^ s - n| ∧
      (|(shiftRound n s : Int) * 2 ^ s - n| = |k * 2 ^ s - n| →
        k = shiftRound n s ∨ shiftRound n s % 2 = 0) := by
  have hmod : n % 2 ^ s < 2 ^ s := Nat.mod_lt n (Nat.two_pow_pos s)
  have hn : (n : Int) = (n / 2 ^ s : Nat) * 2 ^ s + (n % 2 ^ s : Nat) := by
    exact_mod_cast (Nat.div_add_mod' n (2 ^ s)).symm
  simp only [shiftRound, Nat.pow_eq]
  generalize n / 2 ^ s = q at hn ⊢
  generalize n % 2 ^ s = r at hmod hn ⊢
  have hhigh : (r : Int) < 2 ^ s := by exact_mod_cast hmod
  have hcast : ((2 ^ s : Nat) : Int) = 2 ^ s := by norm_cast
  rw [hn]
  have hk := multiple_distance (q := q) (Int.natCast_nonneg r) hhigh k
  split
  · next hup =>
    have hdist : |((q + 1 : Nat) : Int) * 2 ^ s - (q * 2 ^ s + r)| = 2 ^ s - r := by
      have hdiff : ((q + 1 : Nat) : Int) * 2 ^ s - (q * 2 ^ s + r) = 2 ^ s - r := by
        push_cast
        ring
      rw [hdiff, abs_of_nonneg (by omega)]
    rw [hdist]
    generalize |k * 2 ^ s - (q * 2 ^ s + (r : Int))| = d at hk ⊢
    omega
  · next hdown =>
    have hdist : |(q : Int) * 2 ^ s - (q * 2 ^ s + r)| = r := by
      rw [sub_add_cancel_left, abs_neg, Nat.abs_cast]
    rw [hdist]
    generalize |k * 2 ^ s - (q * 2 ^ s + (r : Int))| = d at hk ⊢
    omega

theorem two_pow_mul {a b c : Nat} (h : a + b = c) : 2 ^ a * 2 ^ b = 2 ^ c := by
  rw [← Nat.pow_add, h]

/-- The distance between doubles of the magnitude of `n`. -/
def spacing (n : Nat) : Rat := (2 : Rat) ^ ((n.log2 : Int) - 52)

theorem spacing_pos (n : Nat) : 0 < spacing n := zpow_pos (by norm_num) _

section Exact

variable {n : Nat} (hlog : n.log2 ≤ 52)

include hlog

/-- An integer of fifty-three bits is a multiple of the spacing. -/
theorem scaledSignificand_exact : scaledSignificand n * spacing n = n := by
  have hpower : (2 : Rat) ^ (52 - n.log2) * spacing n = 1 := by
    rw [spacing, ← zpow_natCast, ← zpow_add₀ (by norm_num), Nat.cast_sub hlog]
    simp
  rw [scaledSignificand, if_pos hlog, Nat.pow_eq]
  push_cast
  rw [mul_assoc, hpower, mul_one]

theorem scaledSignificand_lt : scaledSignificand n < 2 ^ 53 := by
  have hhigh : 2 ^ (n.log2 + 1) * 2 ^ (52 - n.log2) = 2 ^ 53 := two_pow_mul (by omega)
  rw [scaledSignificand, if_pos hlog, Nat.pow_eq, ← hhigh]
  exact Nat.mul_lt_mul_of_pos_right Nat.lt_log2_self (Nat.two_pow_pos _)

end Exact

/-- The significand fills its fifty-three bits, or has just been rounded up beyond them. -/
theorem scaledSignificand_bounds {n : Nat} (hn : n ≠ 0) :
    2 ^ 52 ≤ scaledSignificand n ∧ scaledSignificand n ≤ 2 ^ 53 := by
  have hlow := Nat.log2_self_le hn
  by_cases hlog : n.log2 ≤ 52
  · refine ⟨?_, (scaledSignificand_lt hlog).le⟩
    have hlow' : 2 ^ n.log2 * 2 ^ (52 - n.log2) = 2 ^ 52 := two_pow_mul (by omega)
    rw [scaledSignificand, if_pos hlog, Nat.pow_eq, ← hlow']
    exact Nat.mul_le_mul_right _ hlow
  · have hquotient : 2 ^ 52 ≤ n / 2 ^ (n.log2 - 52) ∧ n / 2 ^ (n.log2 - 52) < 2 ^ 53 := by
      have hlow' : 2 ^ 52 * 2 ^ (n.log2 - 52) = 2 ^ n.log2 := two_pow_mul (by omega)
      have hhigh' : 2 ^ 53 * 2 ^ (n.log2 - 52) = 2 ^ (n.log2 + 1) := two_pow_mul (by omega)
      rw [Nat.le_div_iff_mul_le (Nat.two_pow_pos _), Nat.div_lt_iff_lt_mul (Nat.two_pow_pos _),
        hlow', hhigh']
      exact ⟨hlow, Nat.lt_log2_self⟩
    rw [scaledSignificand, if_neg hlog]
    simp only [shiftRound, Nat.pow_eq]
    split <;> omega

/-- No multiple of the spacing is nearer to `n` than the one chosen. -/
theorem scaledSignificand_nearest (n : Nat) (k : Int) :
    |scaledSignificand n * spacing n - n| ≤ |k * spacing n - n| ∧
      (|scaledSignificand n * spacing n - n| = |k * spacing n - n| →
        k = scaledSignificand n ∨ scaledSignificand n % 2 = 0) := by
  by_cases hlog : n.log2 ≤ 52
  · have hexact := scaledSignificand_exact hlog
    rw [hexact, sub_self, abs_zero]
    refine ⟨abs_nonneg _, fun heq => .inl ?_⟩
    have hsame : (k : Rat) * spacing n = scaledSignificand n * spacing n := by
      rw [hexact]
      exact sub_eq_zero.1 (abs_eq_zero.1 heq.symm)
    exact_mod_cast mul_right_cancel₀ (spacing_pos n).ne' hsame
  · have hspacing : spacing n = ((2 ^ (n.log2 - 52) : Int) : Rat) := by
      have hexponent : (n.log2 : Int) - 52 = (n.log2 - 52 : Nat) := by omega
      rw [spacing, hexponent, zpow_natCast]
      norm_cast
    rw [scaledSignificand, if_neg hlog, hspacing]
    exact_mod_cast shiftRound_nearest n (n.log2 - 52) k

/-- A number of fifty-three bits that is as large as the power of two below `n` is a multiple of the
spacing. -/
theorem exists_multiple {n m : Nat} (hm : m < 2 ^ 53) {exponent : Int}
    (hlarge : (2 : Rat) ^ n.log2 ≤ m * (2 : Rat) ^ exponent) :
    ∃ k : Int, (m : Rat) * (2 : Rat) ^ exponent = k * spacing n := by
  have hexponent : (n.log2 : Int) - 52 ≤ exponent := by
    by_contra hsmall
    have hpower : (2 : Rat) ^ exponent ≤ (2 : Rat) ^ ((n.log2 : Int) - 53) :=
      zpow_le_zpow_right₀ (by norm_num) (by omega)
    have hless : (m : Rat) * (2 : Rat) ^ exponent < 2 ^ 53 * (2 : Rat) ^ ((n.log2 : Int) - 53) :=
      mul_lt_mul (by exact_mod_cast hm) hpower (zpow_pos (by norm_num) _) (by norm_num)
    rw [← zpow_natCast, ← zpow_add₀ (by norm_num), Nat.cast_ofNat, add_sub_cancel,
      zpow_natCast] at hless
    exact absurd hlarge (not_le.2 hless)
  refine ⟨m * 2 ^ (exponent - (n.log2 - 52)).toNat, ?_⟩
  have hpower : (2 : Rat) ^ exponent =
      2 ^ (exponent - (n.log2 - 52)).toNat * spacing n := by
    rw [spacing, ← zpow_natCast, ← zpow_add₀ (by norm_num), Int.toNat_of_nonneg (by omega)]
    congr 1
    omega
  rw [hpower]
  push_cast
  ring

/-- No number of fifty-three bits is nearer to `n` than the multiple of the spacing chosen. -/
theorem signed_nearest {n : Nat} (hn : n ≠ 0) {m : Nat} (hm : m < 2 ^ 53) (negative : Bool)
    (exponent : Int) :
    |scaledSignificand n * spacing n - n| ≤ |signed negative m exponent - n| ∧
      (|scaledSignificand n * spacing n - n| = |signed negative m exponent - n| →
        signed negative m exponent = scaledSignificand n * spacing n ∨
          scaledSignificand n % 2 = 0) := by
  have hlow : (2 : Rat) ^ n.log2 ≤ n := by exact_mod_cast Nat.log2_self_le hn
  obtain hsmall | hlarge := lt_or_ge (signed negative m exponent) (2 ^ n.log2)
  · -- The power of two below `n` is itself a multiple of the spacing, and nearer.
    have hpower : ((2 ^ 52 : Int) : Rat) * spacing n = 2 ^ n.log2 := by
      rw [spacing, Int.cast_pow, Int.cast_ofNat, ← zpow_natCast, ← zpow_add₀ (by norm_num),
        ← zpow_natCast]
      congr 1
      omega
    have hnearest := (scaledSignificand_nearest n (2 ^ 52)).1
    rw [hpower, abs_of_nonpos (sub_nonpos.2 hlow)] at hnearest
    rw [abs_of_nonpos (by linarith : signed negative m exponent - n ≤ 0)]
    exact ⟨by linarith, fun heq => by linarith⟩
  · have hpositive : negative = false := by
      rw [← Bool.not_eq_true]
      rintro rfl
      have hnonneg : 0 ≤ (m : Rat) * (2 : Rat) ^ exponent := by positivity
      have hpower : (0 : Rat) < 2 ^ n.log2 := by positivity
      simp only [signed, if_true, neg_mul, one_mul] at hlarge
      linarith
    have hvalue : signed negative m exponent = m * (2 : Rat) ^ exponent := by
      simp [signed, hpositive]
    rw [hvalue] at hlarge ⊢
    obtain ⟨k, hk⟩ := exists_multiple hm hlarge
    obtain ⟨hnearest, heven⟩ := scaledSignificand_nearest n k
    rw [hk]
    exact ⟨hnearest, fun heq => (heven heq).imp (fun h => by rw [h, Int.cast_natCast]) id⟩

/-! ### The double for an integer -/

theorem ofFloat_ofInt_zero : ofFloat (ofInt 0) = finite false 0 (-1074) :=
  @ofFloat_ofBits 0 (by norm_num) (by norm_num)

theorem ofFloat_ofInt {n : Int} (hn : n ≠ 0) (hlog : n.natAbs.log2 < 1023) :
    ofFloat (ofInt n) =
      carried (decide (n < 0)) (scaledSignificand n.natAbs) (n.natAbs.log2 - 52) := by
  have hmagnitude := Int.natAbs_ne_zero.2 hn
  obtain ⟨hlow, hhigh⟩ := scaledSignificand_bounds hmagnitude
  rw [ofInt, nearestBits, if_neg hmagnitude, ← ofBits_carried _ hlog hlow hhigh]
  simp only [decide_eq_true_eq, Nat.pow_eq]

/-- A carry changes the parts and not the number, and leaves an even significand. -/
theorem carried_eq (negative : Bool) (significand : Nat) (exponent : Int) :
    ∃ m e, carried negative significand exponent = finite negative m e ∧
      signed negative m e = signed negative significand exponent ∧
      (significand % 2 = 0 → m % 2 = 0) := by
  unfold carried
  split
  · next hcarry =>
    refine ⟨_, _, rfl, ?_, fun _ => by norm_num⟩
    rw [signed, signed, hcarry, zpow_add_one₀ (by norm_num)]
    push_cast
    ring
  · exact ⟨_, _, rfl, rfl, id⟩

theorem signed_xor (a b : Bool) (significand : Nat) (exponent : Int) :
    signed (a ^^ b) significand exponent = (if a then -1 else 1) * signed b significand exponent := by
  cases a <;> cases b <;> simp [signed]

theorem sign_mul_natAbs (n : Int) :
    (if decide (n < 0) then -1 else 1 : Rat) * n.natAbs = n := by
  by_cases hneg : n < 0
  · rw [decide_eq_true hneg, if_pos rfl, ← Int.cast_natCast, Int.ofNat_natAbs_of_nonpos hneg.le,
      Int.cast_neg, neg_one_mul, neg_neg]
  · rw [decide_eq_false hneg, if_neg Bool.false_ne_true, ← Int.cast_natCast,
      Int.natAbs_of_nonneg (not_lt.1 hneg), one_mul]

/-- Signs do not matter for distances. -/
theorem abs_signed_sub (n : Int) (negative : Bool) (significand : Nat) (exponent : Int) :
    |signed negative significand exponent - n| =
      |signed (decide (n < 0) ^^ negative) significand exponent - n.natAbs| := by
  rw [signed_xor, ← sign_mul_natAbs n]
  cases decide (n < 0) with
  | false => simp
  | true =>
    rw [if_pos rfl, ← abs_neg]
    congr 1
    ring

/-- **An integer goes to the nearest double**, and of two that are equally near to the even one. -/
theorem isNearest_ofInt (n : Int) (hlog : n.natAbs.log2 < 1023) : IsNearest (ofInt n) n := by
  by_cases hn : n = 0
  · subst hn
    refine ⟨false, 0, -1074, ofFloat_ofInt_zero, rfl, fun y v _ => ?_⟩
    have hzero : signed false 0 (-1074) = 0 := by simp [signed]
    rw [hzero, Int.cast_zero, sub_zero, sub_zero, abs_zero]
    exact ⟨abs_nonneg v, fun heq => .inl (abs_eq_zero.1 heq.symm)⟩
  obtain ⟨m, e, hcarried, hvalue, heven⟩ :=
    carried_eq (decide (n < 0)) (scaledSignificand n.natAbs) (n.natAbs.log2 - 52)
  refine ⟨_, m, e, (ofFloat_ofInt hn hlog).trans hcarried, by simp, fun y v hy => ?_⟩
  obtain ⟨negative, m', e', hy', rfl⟩ := toRat?_eq_some hy
  have hchosen : signed (decide (n < 0) ^^ decide (n < 0)) (scaledSignificand n.natAbs)
      (n.natAbs.log2 - 52) = scaledSignificand n.natAbs * spacing n.natAbs := by
    rw [Bool.xor_self, signed, spacing]
    simp
  obtain ⟨hnearest, htie⟩ := signed_nearest (Int.natAbs_ne_zero.2 hn) (significand_lt hy')
    (decide (n < 0) ^^ negative) e'
  -- Both distances are measured from the magnitude of `n`, the other double with its sign turned.
  rw [hvalue, abs_signed_sub, hchosen, abs_signed_sub n negative]
  refine ⟨hnearest, fun heq => (htie heq).imp (fun hsame => ?_) heven⟩
  rw [← hchosen, signed_xor, signed_xor] at hsame
  exact mul_left_cancel₀ (by split <;> norm_num) hsame

end Binary64

end Scriptlet
