import Scriptlet.Number.Shortest
import Scriptlet.Proofs.IntegerReading

/-!
# Scriptlet.Proofs.PrintedIntegers — a printed integer reads back

An integer of at most `2 ^ 53` is itself a double, and the doubles next to it are so close that no
other multiple of ten stands for it.  So the search for its shortest decimal ends at the integer,
which is written out in full.  Main statement: such an integer is printed as its plain decimal
numeral, and this numeral, with white space around it, is read as the integer
(`Value.ofInput_display_ofInt`).
-/

namespace Scriptlet

/-! ### Numerals -/

theorem toDigits_mul_pow {d : Nat} (hd : 0 < d) (k : Nat) :
    Nat.toDigits 10 (d * 10 ^ k) = Nat.toDigits 10 d ++ List.replicate k '0' := by
  induction k with
  | zero => simp
  | succ k ih =>
    have hstep := Nat.toDigits_append_toDigits (b := 10) (n := d * 10 ^ k) (d := 0) (by decide)
      (by positivity) (by decide)
    have hpower : 10 * (d * 10 ^ k) + 0 = d * 10 ^ (k + 1) := by ring
    rw [hpower, ih, Nat.toDigits_zero] at hstep
    rw [← hstep, List.append_assoc, List.replicate_succ']

/-- The numeral of a number is a string of digits of this value. -/
theorem Text.exists_digits (n : Nat) :
    ∃ ds, ds ≠ [] ∧ ofNat n = Integer.digitText ds ∧ Integer.digitValue ds = n := by
  induction n using Nat.strong_induction_on with
  | _ n ih =>
    by_cases hn : n < 10
    · refine ⟨[⟨n, hn⟩], List.cons_ne_nil _ _, ?_, by simp [Integer.digitValue]⟩
      rw [ofNat, Nat.toDigits_of_lt_base hn, Integer.digitText_eq_ofChars]
      rfl
    · obtain ⟨ds, -, htext, hvalue⟩ := ih (n / 10) (by omega)
      refine ⟨ds ++ [⟨n % 10, Nat.mod_lt n (by decide)⟩], by simp, ?_, ?_⟩
      · rw [ofNat, Nat.toDigits_of_base_le (by decide) (by omega), ofChars_append, ← ofNat, htext,
          Integer.digitText_eq_ofChars, Integer.digitText_eq_ofChars, List.map_append, ofChars_append]
        rfl
      · rw [Integer.digitValue] at hvalue
        rw [Integer.digitValue, List.reverse_append, List.reverse_singleton, List.singleton_append,
          List.map_cons, Nat.ofDigits_cons, hvalue]
        exact Nat.mod_add_div n 10

theorem readAs_ofInt {n : Int} (hn : Integer.InRange n) : ReadAs (Text.ofInt n) (Binary64.ofInt n) := by
  cases n with
  | ofNat a =>
    obtain ⟨ds, hds, htext, hvalue⟩ := Text.exists_digits a
    have hparse := Integer.parse?_digitText hds
    rw [hvalue] at hparse
    rw [Text.ofInt, htext]
    exact readAs_of_parse? (hparse.trans (if_pos hn)) (Integer.solid_digitText ds)
      (Integer.enclosed?_digitText ds)
  | negSucc a =>
    obtain ⟨ds, hds, htext, hvalue⟩ := Text.exists_digits (a + 1)
    have hparse := Integer.parse?_signedText true hds
    rw [Integer.signedValue, hvalue, if_pos rfl] at hparse
    rw [Text.ofInt, htext]
    exact readAs_of_parse? (hparse.trans (if_pos hn)) (Integer.solid_signedText true ds)
      (Integer.enclosed?_signedText true ds)

/-! ### The search for the shortest decimal -/

namespace Neighbourhood

/-- Among the multiples of ten only `a` stands for `a`. -/
structure Isolates (N : Neighbourhood) (a : Nat) : Prop where
  value : N.value = a
  self : N.contains a = true
  tens : ∀ j : Nat, N.contains (10 * j : Nat) = true → 10 * j = a

theorem candidates_zero {N : Neighbourhood} {a : Nat} (h : N.value = a) :
    (N.candidates 0).1 = ⟨a, 0⟩ := by
  have hfloor : (a : Rat).floor = a := Rat.floor_intCast a
  simp [candidates, h, hfloor]

theorem candidates_exponent (N : Neighbourhood) (k : Int) :
    (N.candidates k).1.exponent = k ∧ (N.candidates k).2.exponent = k := by
  unfold candidates
  dsimp only
  split <;> exact ⟨rfl, rfl⟩

/-- A candidate that is a multiple of ten and stands for `a` is `a`. -/
theorem Isolates.candidate {N : Neighbourhood} {a : Nat} (h : N.Isolates a) {d : Decimal} {k : Nat}
    (hexponent : d.exponent = (k + 1 : Nat)) (hcontains : N.contains d.toRat = true) :
    d.digits * 10 ^ (k + 1) = a := by
  have htens : d.toRat = (10 * (d.digits * 10 ^ k) : Nat) := by
    rw [Decimal.toRat, hexponent, zpow_natCast]
    push_cast
    ring
  rw [htens] at hcontains
  rw [← h.tens _ hcontains]
  ring

theorem search_succ (N : Neighbourhood) (count : Nat) (k : Int) :
    N.search (count + 1) k =
      if N.contains (N.candidates k).1.toRat then (N.candidates k).1
      else if N.contains (N.candidates k).2.toRat then (N.candidates k).2
      else N.search count (k - 1) := rfl

/-- The search ends at a way to write `a`. -/
theorem Isolates.search {N : Neighbourhood} {a : Nat} (h : N.Isolates a) {count k : Nat}
    (hk : k ≤ count) :
    ∃ (digits : Nat) (j : Nat), N.search count k = ⟨digits, j⟩ ∧ digits * 10 ^ j = a := by
  have hself : (Decimal.mk a 0).toRat = a := by simp [Decimal.toRat]
  induction count generalizing k with
  | zero =>
    obtain rfl := Nat.le_zero.1 hk
    exact ⟨a, 0, candidates_zero h.value, by simp⟩
  | succ count ih =>
    rw [search_succ]
    cases k with
    | zero =>
      rw [Nat.cast_zero, candidates_zero h.value, hself, if_pos h.self]
      exact ⟨a, 0, rfl, by simp⟩
    | succ k =>
      obtain ⟨hnear, hfar⟩ := N.candidates_exponent (k + 1 : Nat)
      split
      · next hcontains => exact ⟨_, k + 1, congrArg (Decimal.mk _) hnear, h.candidate hnear hcontains⟩
      split
      · next hcontains => exact ⟨_, k + 1, congrArg (Decimal.mk _) hfar, h.candidate hfar hcontains⟩
      · have hnext : ((k + 1 : Nat) : Int) - 1 = k := by omega
        rw [hnext]
        exact ih (by omega)

/-! ### The doubles next to an integer -/

theorem contains_bounds {N : Neighbourhood} {x : Rat} (h : N.contains x = true) :
    N.low ≤ x ∧ x ≤ N.high := by
  unfold contains at h
  split at h
  · simpa using h
  · simp only [Bool.and_eq_true, decide_eq_true_eq] at h
    exact ⟨h.1.le, h.2.le⟩

theorem contains_of_lt {N : Neighbourhood} {x : Rat} (hlow : N.low < x) (hhigh : x < N.high) :
    N.contains x = true := by
  unfold contains
  split <;> simp [hlow, hhigh, hlow.le, hhigh.le]

/-- How far the neighbourhood of a double reaches. -/
theorem ofDouble_bounds (m : Nat) (e : Int) :
    (ofDouble m e).value = m * (2 : Rat) ^ e ∧ (ofDouble m e).low < (ofDouble m e).value ∧
      (ofDouble m e).value - (2 : Rat) ^ e / 2 ≤ (ofDouble m e).low ∧
      (ofDouble m e).high = (ofDouble m e).value + (2 : Rat) ^ e / 2 := by
  have hunit : 0 < (2 : Rat) ^ e := by positivity
  refine ⟨rfl, ?_, ?_, rfl⟩ <;> simp only [ofDouble] <;> split <;> linarith

/-- Where doubles are at most one apart, only one integer stands for a double. -/
theorem isolates_ofDouble {m a : Nat} {e : Int} (hvalue : (m : Rat) * (2 : Rat) ^ e = a)
    (he : e ≤ 0) : (ofDouble m e).Isolates a := by
  have hunit : 0 < (2 : Rat) ^ e := by positivity
  have hsmall : (2 : Rat) ^ e ≤ 1 := zpow_le_one_of_nonpos₀ (by norm_num) he
  obtain ⟨hdouble, hbelow, hlow, hhigh⟩ := ofDouble_bounds m e
  rw [hvalue] at hdouble
  rw [hdouble] at hbelow hlow hhigh
  refine ⟨hdouble, contains_of_lt hbelow (by linarith), fun j hj => ?_⟩
  obtain ⟨hlow', hhigh'⟩ := contains_bounds hj
  have hless : ((10 * j : Nat) : Rat) < a + 1 := by linarith
  have hmore : (a : Rat) < (10 * j : Nat) + 1 := by linarith
  norm_cast at hless hmore
  omega

/-- Above `2 ^ 53` doubles are two apart, but its neighbours are no multiples of ten. -/
theorem isolates_ofDouble_limit : (ofDouble (2 ^ 52) 1).Isolates (2 ^ 53) := by
  obtain ⟨hdouble, hbelow, hlow, hhigh⟩ := ofDouble_bounds (2 ^ 52) 1
  have hvalue : (ofDouble (2 ^ 52) 1).value = (2 ^ 53 : Nat) := by
    rw [hdouble]
    norm_num
  rw [hvalue] at hbelow hlow hhigh
  refine ⟨hvalue, contains_of_lt hbelow (by rw [hhigh]; norm_num), fun j hj => ?_⟩
  obtain ⟨hlow', hhigh'⟩ := contains_bounds hj
  have hless : ((10 * j : Nat) : Rat) ≤ (2 ^ 53 + 1 : Nat) := by
    rw [hhigh] at hhigh'
    push_cast at hhigh' ⊢
    linarith
  have hmore : ((2 ^ 53 : Nat) : Rat) ≤ (10 * j + 1 : Nat) := by
    push_cast at hlow hlow' ⊢
    linarith
  norm_cast at hless hmore
  omega

end Neighbourhood

/-! ### Integers that are doubles -/

/-- An integer other than zero of at most `2 ^ 53` is a double, and its neighbours leave it alone. -/
theorem Binary64.exists_parts {n : Int} (hn : n ≠ 0) (hbound : n.natAbs ≤ 2 ^ 53) :
    ∃ m e, ofFloat (ofInt n) = finite (decide (n < 0)) m e ∧ (m : Rat) * (2 : Rat) ^ e = n.natAbs ∧
      (Neighbourhood.ofDouble m e).Isolates n.natAbs ∧ 0 ≤ powerAbove m e ∧ powerAbove m e ≤ 20 := by
  have ha := Int.natAbs_ne_zero.2 hn
  have hlog : n.natAbs.log2 ≤ 53 := Nat.lt_succ_iff.1 ((Nat.log2_lt ha).2 (by omega))
  have hparts := ofFloat_ofInt hn (by omega)
  generalize n.natAbs = a at ha hbound hlog hparts ⊢
  obtain hlimit | hsmall := hbound.eq_or_lt
  · subst hlimit
    have hscaled : scaledSignificand (2 ^ 53) = 2 ^ 52 := by
      rw [scaledSignificand, Nat.log2_two_pow]
      rfl
    rw [hscaled, Nat.log2_two_pow, carried, if_neg (by norm_num)] at hparts
    refine ⟨_, _, hparts, by norm_num, Neighbourhood.isolates_ofDouble_limit, ?_⟩
    rw [powerAbove, Nat.log2_two_pow]
    omega
  · have hlog : a.log2 ≤ 52 := Nat.lt_succ_iff.1 ((Nat.log2_lt ha).2 hsmall)
    have hlow := (scaledSignificand_bounds ha).1
    have hhigh := scaledSignificand_lt hlog
    have hvalue := scaledSignificand_exact hlog
    rw [carried, if_neg hhigh.ne] at hparts
    refine ⟨_, _, hparts, hvalue, Neighbourhood.isolates_ofDouble hvalue (by omega), ?_⟩
    rw [powerAbove, (Nat.log2_eq_iff (by omega)).2 ⟨hlow, hhigh⟩]
    omega

theorem Text.ofInt_eq (n : Int) :
    ofInt n = (if n < 0 then utf8 "-" else []) ++ ofNat n.natAbs := by
  cases n with
  | ofNat a =>
    have hpositive : ¬Int.ofNat a < 0 := Int.not_lt.2 (Int.natCast_nonneg a)
    rw [if_neg hpositive]
    rfl
  | negSucc a =>
    rw [if_pos (Int.negSucc_lt_zero a)]
    rfl

/-- The integer is printed as its numeral. -/
theorem Value.display_ofInt {n : Int} (hbound : n.natAbs ≤ 2 ^ 53) :
    (ofInt n).display = Text.ofInt n := by
  show (Binary64.ofFloat (Binary64.ofInt n)).display = _
  by_cases hn : n = 0
  · subst hn
    rw [Binary64.ofFloat_ofInt_zero]
    rfl
  obtain ⟨m, e, hparts, hvalue, hisolates, hpower, hpower'⟩ := Binary64.exists_parts hn hbound
  have ha := Int.natAbs_pos.2 hn
  have hm : m ≠ 0 := by
    rintro rfl
    rw [Nat.cast_zero, zero_mul] at hvalue
    exact ha.ne (by exact_mod_cast hvalue)
  have hcount : (powerAbove m e).toNat ≤ 20 := by omega
  obtain ⟨digits, j, hsearch, hdigits⟩ := hisolates.search hcount
  rw [Int.toNat_of_nonneg hpower] at hsearch
  have hpositive : 0 < digits := by
    by_contra hzero
    rw [Nat.eq_zero_of_not_pos hzero, Nat.zero_mul] at hdigits
    omega
  have hshortest : (shortestDecimal m e).positional = Nat.toDigits 10 n.natAbs := by
    rw [shortestDecimal, hsearch, Decimal.positional, if_pos (Int.natCast_nonneg j), ← hdigits,
      toDigits_mul_pow hpositive]
    rfl
  rw [hparts, Binary64.display, if_neg hm, hshortest, Text.ofInt_eq, Text.ofNat]
  simp only [decide_eq_true_eq]

/-- **A printed integer reads back.**  An integer of at most `2 ^ 53` is a double.  It is printed as
its plain decimal numeral, and a line of input with this numeral and any white space around it is
the same number. -/
theorem Value.ofInput_display_ofInt (n : Int) (hbound : n.natAbs ≤ 2 ^ 53) :
    (Binary64.ofFloat (Binary64.ofInt n)).toRat? = some (n : Rat) ∧
      (ofInt n).display = Text.ofInt n ∧
      ∀ before after : List Char, (∀ c ∈ before, isBlank c) → (∀ c ∈ after, isBlank c) →
        ofInput ((ofInt n).display.padded before after) = ofInt n := by
  have hrange : Integer.InRange n := by
    unfold Integer.InRange
    omega
  refine ⟨?_, display_ofInt hbound, fun before after hbefore hafter => ?_⟩
  · by_cases hn : n = 0
    · subst hn
      rw [Binary64.ofFloat_ofInt_zero]
      simp [Binary64.toRat?, Binary64.signed]
    · obtain ⟨m, e, hparts, hvalue, -⟩ := Binary64.exists_parts hn hbound
      rw [hparts, Binary64.toRat?, Binary64.signed, hvalue, Binary64.sign_mul_natAbs]
  · rw [display_ofInt hbound]
    exact (readAs_ofInt hrange).input before after hbefore hafter

/-- The bound itself is printed in full and read back with a tab before it and a space after it. -/
theorem Value.ofInput_display_ofInt_limit :
    (-2 ^ 53 : Int).natAbs ≤ 2 ^ 53 ∧
      (ofInt (-2 ^ 53)).display = utf8 "-9007199254740992" ∧
      ofInput ((ofInt (-2 ^ 53)).display.padded ['\t'] [' ']) = ofInt (-2 ^ 53) := by
  have hbound : (-2 ^ 53 : Int).natAbs ≤ 2 ^ 53 := by decide
  obtain ⟨-, hdisplay, hinput⟩ := ofInput_display_ofInt (-2 ^ 53) hbound
  refine ⟨hbound, hdisplay.trans (by decide), hinput _ _ ?_ ?_⟩
  · exact List.forall_mem_singleton.2 rfl
  · exact List.forall_mem_singleton.2 rfl

end Scriptlet
