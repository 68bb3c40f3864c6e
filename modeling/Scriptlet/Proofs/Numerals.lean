import Scriptlet.Proofs.Lexicon

/-!
# Scriptlet.Proofs.Numerals — integer literals as the lexer reads them

The lexer finds the radix of a literal in its first two characters, takes all digits and underscores
that follow, and then makes three checks.  This comes to the grammar of integer literals: a literal
is what the radix of its own first characters makes of it (`integerLiteral_iff`), and the checks are
those of the grammar (`numeral_of_radixOf`).
-/

namespace Scriptlet

/-! ### Classes of characters by their codes -/

namespace Lexer

variable {c : Char} {radix : Radix}

theorem isSpace_iff : isSpace c ↔ c = '\t' ∨ c = '\n' ∨ c = '\r' ∨ c = ' ' := by
  simp only [isSpace, Bool.or_eq_true, beq_iff_eq, or_assoc]

theorem isDigit_iff : isDigit c ↔ 48 ≤ c.toNat ∧ c.toNat ≤ 57 := by
  simp only [isDigit, Bool.and_eq_true, decide_eq_true_eq, Char.le_def, UInt32.le_iff_toNat_le]
  rfl

theorem isHexDigit_iff :
    isHexDigit c ↔ (48 ≤ c.toNat ∧ c.toNat ≤ 57) ∨ (97 ≤ c.toNat ∧ c.toNat ≤ 102) ∨
      (65 ≤ c.toNat ∧ c.toNat ≤ 70) := by
  simp only [isHexDigit, Bool.or_eq_true, isDigit_iff, Bool.and_eq_true, decide_eq_true_eq,
    Char.le_def, UInt32.le_iff_toNat_le, or_assoc]
  rfl

theorem isLetter_iff :
    isLetter c ↔ c.toNat = 95 ∨ (97 ≤ c.toNat ∧ c.toNat ≤ 122) ∨
      (65 ≤ c.toNat ∧ c.toNat ≤ 90) := by
  simp only [isLetter, Bool.or_eq_true, beq_iff_eq, Bool.and_eq_true, decide_eq_true_eq,
    Char.le_def, UInt32.le_iff_toNat_le, or_assoc, ← Char.toNat_inj]
  rfl

theorem isLetter_of_isDigit (h : isDigit c) : isLetter c = false := by
  rw [← Bool.not_eq_true, isLetter_iff]
  rw [isDigit_iff] at h
  omega

theorem exceeds_iff : exceeds radix c ↔ isDigit c ∧ radix.base + 48 ≤ c.toNat := by
  have hbase : 0 < radix.base := by cases radix <;> decide
  have hzero : '0'.toNat = 48 := rfl
  rw [exceeds, Bool.and_eq_true, decide_eq_true_eq, hzero]
  exact and_congr_right fun _ => by omega

theorem isNumeralChar_iff :
    isNumeralChar radix c ↔
      c = '_' ∨ if radix = .hexadecimal then (isHexDigit c : Prop) else isDigit c := by
  rw [isNumeralChar, Bool.or_eq_true, beq_iff_eq, Bool.ite_eq_true_distrib]

theorem mem_digits :
    c ∈ radix.digits ↔ isNumeralChar radix c ∧ c ≠ '_' ∧ exceeds radix c = false := by
  have hcode : ∀ a : Char, c = a ↔ c.toNat = a.toNat := fun a => Char.toNat_inj.symm
  rw [isNumeralChar_iff, ← Bool.not_eq_true, exceeds_iff]
  cases radix <;>
    simp only [Radix.digits, Radix.base, List.mem_cons, List.not_mem_nil, or_false, reduceCtorEq,
      if_true, if_false, isDigit_iff, isHexDigit_iff, hcode, ne_eq, Char.reduceToNat] <;> omega

theorem isEscapeDigit_iff : isEscapeDigit radix c ↔ c ∈ radix.digits := by
  have hcode : c = '_' ↔ c.toNat = 95 := Char.toNat_inj.symm
  rw [mem_digits, isNumeralChar_iff, ← Bool.not_eq_true, exceeds_iff, isEscapeDigit,
    Bool.ite_eq_true_distrib, Bool.and_eq_true, Bool.not_eq_true', ← Bool.not_eq_true, exceeds_iff]
  cases radix <;>
    simp only [reduceCtorEq, if_true, if_false, Radix.base, isDigit_iff, isHexDigit_iff, ne_eq,
      hcode] <;> omega

end Lexer

namespace Lexicon

open Lexer

theorem takeWhile_append_stop {p : Char → Bool} {cs rest : List Char} (hcs : ∀ c ∈ cs, p c)
    (hrest : ∀ d ∈ rest.head?, p d = false) :
    (cs ++ rest).takeWhile p = cs ∧ (cs ++ rest).dropWhile p = rest := by
  rw [List.takeWhile_append_of_pos hcs, List.dropWhile_append_of_pos hcs]
  cases rest with
  | nil => simp
  | cons d rest =>
    have hd : p d = false := hrest d rfl
    simp [hd]

theorem head?_dropWhile_stop (p : Char → Bool) (cs : List Char) :
    ∀ d ∈ (cs.dropWhile p).head?, p d = false := by
  intro d hd
  have h := List.head?_dropWhile_not p cs
  rw [Option.mem_def.1 hd] at h
  exact h

/-! ### Integer literals -/

section Numerals

variable {radix : Radix} {marked : Bool} {c d : Char} {cs ds rest : List Char}

/-- What follows the mark of a literal, or the whole of a literal without a mark. -/
def Numeral (radix : Radix) (marked : Bool) (ds : List Char) : Prop :=
  Digits radix ds ∨ marked ∧ ∃ ds', ds = '_' :: ds' ∧ Digits radix ds'

theorem digits_cons_iff (hd : d ∈ radix.digits) :
    Digits radix (d :: ds) ↔ ds = [] ∨ Numeral radix true ds := by
  constructor
  · intro h
    cases h with
    | single _ => exact .inl rfl
    | cons _ h => exact .inr (.inl h)
    | underscore _ h => exact .inr (.inr ⟨rfl, _, rfl, h⟩)
  · rintro (rfl | h | ⟨-, ds', rfl, h⟩)
    · exact .single hd
    · exact .cons hd h
    · exact .underscore hd h

theorem underscore_not_mem : '_' ∉ radix.digits := fun h => (mem_digits.1 h).2.1 rfl

theorem wellSeparated_underscore (marked : Bool) (d : Char) (ds : List Char) :
    wellSeparated marked ('_' :: d :: ds) = (marked && d != '_' && wellSeparated false (d :: ds)) := by
  rw [wellSeparated.eq_def]
  rfl

theorem wellSeparated_cons (marked : Bool) (hd : d ≠ '_') (ds : List Char) :
    wellSeparated marked (d :: ds) = wellSeparated true ds := by
  rw [wellSeparated.eq_def]
  exact if_neg hd

/-- Underscores stand where the lexer wants them in a numeral, and in no other run of digits. -/
theorem wellSeparated_iff (hds : ∀ d ∈ ds, d = '_' ∨ d ∈ radix.digits) :
    wellSeparated marked ds ↔ ds = [] ∨ Numeral radix marked ds := by
  induction ds generalizing marked with
  | nil => simp [wellSeparated]
  | cons d ds ih =>
    have ih' := fun marked => @ih marked fun e he => hds e (List.mem_cons_of_mem d he)
    by_cases hd : d = '_'
    · subst hd
      have hnot : ¬ Digits radix ('_' :: ds) := fun h => underscore_not_mem h.head
      cases ds with
      | nil =>
        have hnil : ¬ Digits radix [] := nofun
        simp [wellSeparated, Numeral, hnot, hnil]
      | cons e ds =>
        have he : Digits radix (e :: ds) → e ≠ '_' := by
          rintro h rfl
          exact underscore_not_mem h.head
        have hrest := ih' false
        simp only [Numeral, Bool.false_eq_true, false_and, or_false, reduceCtorEq, false_or] at hrest
        simp only [wellSeparated_underscore, Bool.and_eq_true, bne_iff_ne, hrest, Numeral, hnot,
          reduceCtorEq, false_or, List.cons.injEq, true_and, exists_eq_left']
        exact ⟨fun h => ⟨h.1.1, h.2⟩, fun h => ⟨⟨h.1, he h.2⟩, h.2⟩⟩
    · have hmem : d ∈ radix.digits := (hds d List.mem_cons_self).resolve_left hd
      have hnot : ¬ ∃ ds', d :: ds = '_' :: ds' ∧ Digits radix ds' := by
        rintro ⟨ds', h, -⟩
        exact hd (List.cons.inj h).1
      have hnumeral : Numeral radix marked (d :: ds) ↔ Digits radix (d :: ds) :=
        or_iff_left fun h => hnot h.2
      rw [wellSeparated_cons marked hd, ih' true, hnumeral, digits_cons_iff hmem]
      simp

theorem Digits.mem (h : Digits radix ds) : ∀ d ∈ ds, d = '_' ∨ d ∈ radix.digits := by
  induction h with
  | single hd => exact List.forall_mem_singleton.2 (.inr hd)
  | cons hd _ ih => exact List.forall_mem_cons.2 ⟨.inr hd, ih⟩
  | underscore hd _ ih =>
    exact List.forall_mem_cons.2 ⟨.inr hd, List.forall_mem_cons.2 ⟨.inl rfl, ih⟩⟩

theorem Numeral.mem (h : Numeral radix marked ds) : ∀ d ∈ ds, d = '_' ∨ d ∈ radix.digits := by
  rcases h with h | ⟨-, ds', rfl, h⟩
  · exact h.mem
  · exact List.forall_mem_cons.2 ⟨.inl rfl, h.mem⟩

theorem Numeral.exists_digit (h : Numeral radix marked ds) : ∃ d ∈ ds, d ∈ radix.digits := by
  have hdigits : ∀ {ds}, Digits radix ds → ∃ d ∈ ds, d ∈ radix.digits := by
    intro ds h
    cases h with
    | single hd | cons hd _ | underscore hd _ => exact ⟨_, List.mem_cons_self, hd⟩
  rcases h with h | ⟨-, ds', rfl, h⟩
  · exact hdigits h
  · obtain ⟨d, hd, hmem⟩ := hdigits h
    exact ⟨d, List.mem_cons_of_mem _ hd, hmem⟩

theorem Numeral.isNumeralChar (h : Numeral radix marked ds) :
    ∀ d ∈ ds, Lexer.isNumeralChar radix d := by
  intro d hd
  rcases h.mem d hd with rfl | hmem
  · exact isNumeralChar_iff.2 (.inl rfl)
  · exact (mem_digits.1 hmem).1

/-- The three checks that the lexer makes of a run of digits and underscores. -/
theorem numeral_iff (hds : ∀ d ∈ ds, Lexer.isNumeralChar radix d) :
    Numeral radix marked ds ↔
      ds.all (· == '_') = false ∧ ds.find? (exceeds radix) = none ∧ wellSeparated marked ds := by
  constructor
  · intro h
    obtain ⟨d, hd, hmem⟩ := h.exists_digit
    refine ⟨?_, ?_, (wellSeparated_iff h.mem).2 (.inr h)⟩
    · rw [List.all_eq_false]
      exact ⟨d, hd, by simpa using (mem_digits.1 hmem).2.1⟩
    · rw [List.find?_eq_none]
      intro e he
      rw [Bool.not_eq_true]
      rcases h.mem e he with rfl | hmem'
      · cases radix <;> rfl
      · exact (mem_digits.1 hmem').2.2
  · rintro ⟨hall, hfind, hwell⟩
    have hmem : ∀ d ∈ ds, d = '_' ∨ d ∈ radix.digits := by
      intro d hd
      by_cases hu : d = '_'
      · exact .inl hu
      · exact .inr (mem_digits.2 ⟨hds d hd, hu, by simpa using List.find?_eq_none.1 hfind d hd⟩)
    refine ((wellSeparated_iff hmem).1 hwell).resolve_left ?_
    rintro rfl
    simp at hall

/-! The radix of a literal shows in its first two characters. -/

theorem mark_append_body (c : Char) (cs : List Char) :
    (radixOf c cs).2.1 ++ (radixOf c cs).2.2 = c :: cs := by
  unfold radixOf
  repeat' split
  all_goals rfl

theorem radixOf_append (c : Char) (hcs : cs ≠ []) (rest : List Char) :
    radixOf c (cs ++ rest) =
      ((radixOf c cs).1, (radixOf c cs).2.1, (radixOf c cs).2.2 ++ rest) := by
  obtain ⟨x, cs, rfl⟩ := List.exists_cons_of_ne_nil hcs
  simp only [radixOf, List.cons_append]
  repeat' split
  all_goals rfl

theorem radixOf_mark {x : Char} (hx : x ∈ radix.marks) (ds : List Char) :
    radixOf '0' (x :: ds) = (radix, ['0', x], ds) := by
  cases radix <;> simp only [Radix.marks, List.mem_cons, List.not_mem_nil, or_false] at hx
  all_goals rcases hx with rfl | rfl <;> rfl

theorem radixOf_cases (c : Char) (cs : List Char) :
    (∃ radix x ds, c = '0' ∧ cs = x :: ds ∧ x ∈ Radix.marks radix) ∨
      radixOf c cs = (if c = '0' then .octal else .decimal, [], c :: cs) := by
  by_cases hc : c = '0'
  · cases cs with
    | nil => exact .inr (by simp [radixOf, hc])
    | cons x ds =>
      by_cases hx : ∃ radix, x ∈ Radix.marks radix
      · obtain ⟨radix, hx⟩ := hx
        exact .inl ⟨radix, x, ds, hc, rfl, hx⟩
      · have hnot : ∀ radix, x ∉ Radix.marks radix := fun radix h => hx ⟨radix, h⟩
        have hhex := hnot .hexadecimal
        have hoctal := hnot .octal
        have hbinary := hnot .binary
        simp only [Radix.marks, List.mem_cons, List.not_mem_nil, or_false] at hhex hoctal hbinary
        exact .inr (by simp only [radixOf, hc, if_true, hhex, hoctal, hbinary, if_false])
  · exact .inr (by simp only [radixOf, hc, if_false])

theorem radixOf_nil (c : Char) : radixOf c [] = (if c = '0' then .octal else .decimal, [], [c]) := by
  rcases radixOf_cases c [] with ⟨_, _, _, -, h, -⟩ | h
  · cases h
  · exact h

theorem radixOf_unmarked (h : (radixOf c cs).2.1 = []) :
    radixOf c cs = ((radixOf c []).1, [], c :: cs) := by
  rcases radixOf_cases c cs with ⟨radix, x, ds, rfl, rfl, hx⟩ | hcs
  · rw [radixOf_mark hx] at h
    cases h
  · rw [hcs, radixOf_nil]

/-- A mark is no part of a run of octal digits. -/
theorem not_octal_of_mark : ∀ x ∈ radix.marks, ¬ (x = '_' ∨ x ∈ Radix.octal.digits) := by
  cases radix <;> simp [Radix.marks, Radix.digits]

/-- Integer literals, by the radix that the lexer assigns to them. -/
theorem integerLiteral_iff :
    IntegerLiteral (c :: cs) ↔
      isDigit c ∧ Numeral (radixOf c cs).1 (!(radixOf c cs).2.1.isEmpty) (radixOf c cs).2.2 := by
  have hdigit : ∀ d ∈ Radix.decimal.digits, isDigit d := List.all_eq_true.1 rfl
  have hoctal : ∀ d ∈ Radix.octal.digits, isDigit d := List.all_eq_true.1 rfl
  constructor
  · intro h
    cases h with
    | decimal h hc =>
      have hc' : c ≠ '0' := fun heq => hc (by rw [heq]; rfl)
      refine ⟨hdigit c h.head, ?_⟩
      rcases radixOf_cases c cs with ⟨-, -, -, heq, -⟩ | heq
      · exact absurd heq hc'
      · rw [heq, if_neg hc']
        exact .inl h
    | octal h =>
      refine ⟨rfl, ?_⟩
      rcases radixOf_cases '0' cs with ⟨radix, x, ds, -, rfl, hx⟩ | heq
      · exact absurd (h.mem x (by simp)) (not_octal_of_mark x hx)
      · rw [heq, if_pos rfl]
        exact .inl h
    | marked hx h =>
      rw [radixOf_mark hx]
      exact ⟨rfl, .inl h⟩
    | markedUnderscore hx h =>
      rw [radixOf_mark hx]
      exact ⟨rfl, .inr ⟨rfl, _, rfl, h⟩⟩
  · rintro ⟨hc, h⟩
    rcases radixOf_cases c cs with ⟨radix, x, ds, rfl, rfl, hx⟩ | heq
    · rw [radixOf_mark hx] at h
      rcases h with h | ⟨-, ds', rfl, h⟩
      · exact .marked hx h
      · exact .markedUnderscore hx h
    · rw [heq] at h
      have h' := h.resolve_right nofun
      by_cases hzero : c = '0'
      · subst hzero
        exact .octal h'
      · rw [if_neg hzero] at h'
        exact .decimal h' (by simpa using hzero)

/-- A run of digits stops where the lexer stops, and it is judged by the three checks. -/
theorem numeral_of_radixOf {mark l rest' : List Char} (h : radixOf c cs = (radix, mark, ds ++ rest))
    (hds : ∀ d ∈ ds, Lexer.isNumeralChar radix d)
    (hrest : ∀ d ∈ rest.head?, Lexer.isNumeralChar radix d = false) :
    numeral c cs = .ok (l, rest') ↔
      Numeral radix (!mark.isEmpty) ds ∧ mark ++ ds = l ∧ rest = rest' := by
  obtain ⟨htake, hdrop⟩ := takeWhile_append_stop hds hrest
  rw [numeral, h]
  simp only [htake, hdrop]
  rw [numeral_iff hds]
  cases hall : ds.all (· == '_') with
  | true => simp
  | false =>
    cases hfind : ds.find? (exceeds radix) with
    | some d => simp
    | none =>
      cases hwell : wellSeparated (!mark.isEmpty) ds with
      | false => simp
      | true => simp

/-- The first two characters of a literal are those of the source. -/
theorem radixOf_of_append {mark : List Char} (h : radixOf c (cs ++ rest) = (radix, mark, ds ++ rest))
    (hmark : mark ++ ds = c :: cs) : radixOf c cs = (radix, mark, ds) := by
  by_cases hcs : cs = []
  · subst hcs
    rcases radixOf_cases c rest with ⟨radix', x, ds', rfl, rfl, hx⟩ | hrest
    · rw [List.nil_append, radixOf_mark hx, Prod.mk.injEq, Prod.mk.injEq] at h
      obtain ⟨-, rfl, -⟩ := h
      simp at hmark
    · rw [List.nil_append, hrest, Prod.mk.injEq, Prod.mk.injEq] at h
      obtain ⟨rfl, rfl, -⟩ := h
      rw [List.nil_append] at hmark
      rw [radixOf_nil, hmark]
  · rw [radixOf_append c hcs, Prod.mk.injEq, Prod.mk.injEq, List.append_left_inj] at h
    obtain ⟨rfl, rfl, rfl⟩ := h
    rfl

end Numerals

end Lexicon

end Scriptlet
