import Scriptlet.Number.Integer
import Scriptlet.Syntax.Basic

/-!
# Scriptlet.Proofs.TokenClass — how tokens are told apart

Each recogniser of tokens is described by the tokens it accepts.  The three classes with a meaning
of their own exclude each other, because the first byte decides.
-/

namespace Scriptlet

theorem utf8_inj {s t : String} : utf8 s = utf8 t ↔ s = t := by
  constructor
  · intro h
    exact String.toByteArray_inj.1 (ByteArray.ext (Array.toList_inj.1 h))
  · rintro rfl
    rfl

/-! ### Words and operators -/

theorem Keyword.ofToken?_eq_some {t : Token} {k : Keyword} :
    Keyword.ofToken? t = some k ↔ t = utf8 k.word := by
  constructor
  · intro h
    have hk := List.find?_some h
    exact (eq_of_beq hk).symm
  · rintro rfl
    cases k <;> decide

theorem Keyword.ofToken?_eq_none {t : Token} :
    Keyword.ofToken? t = none ↔ ∀ k : Keyword, t ≠ utf8 k.word := by
  constructor
  · rintro h k rfl
    rw [Keyword.ofToken?_eq_some.2 rfl] at h
    cases h
  · intro h
    cases hk : Keyword.ofToken? t with
    | none => rfl
    | some k => exact absurd (Keyword.ofToken?_eq_some.1 hk) (h k)

theorem ArithOp.isSome_ofToken? {t : Token} :
    (ArithOp.ofToken? t).isSome ↔ ∃ o : ArithOp, utf8 o.symbol = t := by
  have hall : ∀ o : ArithOp, o ∈ ArithOp.all := by intro o; cases o <;> decide
  simp only [ArithOp.ofToken?, List.find?_isSome, hall, true_and, beq_iff_eq]

theorem CompareOp.isSome_ofToken? {t : Token} :
    (CompareOp.ofToken? t).isSome ↔ ∃ o : CompareOp, utf8 o.symbol = t := by
  have hall : ∀ o : CompareOp, o ∈ CompareOp.all := by intro o; cases o <;> decide
  simp only [CompareOp.ofToken?, List.find?_isSome, hall, true_and, beq_iff_eq]

/-! ### Literals -/

theorem Token.enclosed?_eq_some {t : Token} {inner : Text} :
    t.enclosed? = some inner ↔ t = quoteByte :: inner ++ [quoteByte] := by
  unfold Token.enclosed?
  split
  · next b c t =>
    split
    · next h =>
      obtain ⟨rfl, hlast⟩ := h
      obtain ⟨ys, hys⟩ := List.getLast?_eq_some_iff.1 hlast
      rw [hys, List.dropLast_concat]
      simp
    · next h =>
      constructor
      · intro h'
        cases h'
      · intro h'
        obtain ⟨hb, ht⟩ := List.cons.inj h'
        exact absurd ⟨hb, by rw [ht]; simp⟩ h
  · next hne =>
    constructor
    · intro h
      cases h
    · rintro rfl
      cases inner with
      | nil => exact absurd rfl (hne _ _ _)
      | cons b inner => exact absurd rfl (hne _ _ _)

theorem Token.stringLiteral?_eq_some {t : Token} {inner : Text} :
    t.stringLiteral? = some inner ↔
      t = quoteByte :: inner ++ [quoteByte] ∧ ∀ b ∈ inner, b ≠ 0x0A ∧ b ≠ 0x0D := by
  unfold Token.stringLiteral?
  rw [Option.filter_eq_some_iff, Token.enclosed?_eq_some]
  simp

theorem Token.enclosed?_of_head_ne {b : UInt8} {t : Token} (hb : b ≠ quoteByte) :
    Token.enclosed? (b :: t) = none := by
  cases h : Token.enclosed? (b :: t) with
  | none => rfl
  | some inner => exact absurd (List.cons.inj (Token.enclosed?_eq_some.1 h)).1 hb

theorem Token.stringLiteral?_of_head_ne {b : UInt8} {t : Token} (hb : b ≠ quoteByte) :
    Token.stringLiteral? (b :: t) = none := by
  rw [Token.stringLiteral?, Token.enclosed?_of_head_ne hb]
  rfl

theorem Token.stringLiteral?_of_isIntLiteral {t : Token} (h : t.isIntLiteral) :
    t.stringLiteral? = none := by
  cases t with
  | nil => rfl
  | cons b t =>
    refine Token.stringLiteral?_of_head_ne ?_
    rintro rfl
    simp only [Token.isIntLiteral, List.all_cons, Bool.and_eq_true] at h
    exact absurd h.2.1 (by decide)

theorem Token.stringLiteral?_of_isIdent {t : Token} (h : t.isIdent) : t.stringLiteral? = none := by
  cases t with
  | nil => rfl
  | cons b t =>
    refine Token.stringLiteral?_of_head_ne ?_
    rintro rfl
    simp only [Token.isIdent, Bool.and_eq_true] at h
    exact absurd h.1 (by decide)

theorem isDigitByte_of_isLetterByte {b : UInt8} (h : isLetterByte b) : isDigitByte b = false := by
  simp only [isLetterByte, isDigitByte] at h ⊢
  grind

theorem Token.isIntLiteral_of_isIdent {t : Token} (h : t.isIdent) : t.isIntLiteral = false := by
  cases t with
  | nil => rfl
  | cons b t =>
    simp only [Token.isIdent, Bool.and_eq_true] at h
    simp [Token.isIntLiteral, isDigitByte_of_isLetterByte h.1]

theorem Integer.unsigned?_eq_some {t : Token} {n : Int} :
    Integer.unsigned? t = some n ↔
      t.isIntLiteral ∧ Integer.InRange (Integer.ofDigits t) ∧ n = Integer.ofDigits t := by
  unfold Integer.unsigned?
  split
  · next h => simp [h, eq_comm]
  · next h =>
    constructor
    · intro h'
      cases h'
    · rintro ⟨h₁, h₂, -⟩
      exact absurd ⟨h₁, h₂⟩ h

end Scriptlet
