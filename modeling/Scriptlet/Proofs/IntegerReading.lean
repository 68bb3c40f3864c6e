import Scriptlet.Proofs.NearestDouble
import Scriptlet.Proofs.Readers
import Scriptlet.Proofs.TokenClass
import Scriptlet.Proofs.Utf8
import Scriptlet.Run.Interpreter

/-!
# Scriptlet.Proofs.IntegerReading — all readers of integers agree

Digits may stand in an expression, as an operand, as an argument and in a line of input, and each of
these places has a reader of its own.  Main statement: for digits of any number, with and without a
sign, all readers that take them for a number take them for the same one, the double nearest to
their value, up to the bounds of sixty-four bits, and beyond these bounds none does
(`Integer.readers_agree`).
-/

namespace Scriptlet

/-! ### White space around a text -/

theorem trimBoth_append {α : Type} {p : α → Bool} {before l after : List α}
    (hbefore : ∀ a ∈ before, p a) (hl : ∀ a ∈ l, p a = false) (hafter : ∀ a ∈ after, p a) :
    trimBoth p (before ++ l ++ after) = l := by
  have hfront : ∀ {l r : List α}, (∀ a ∈ l, p a = false) → (∀ a ∈ r, p a) →
      (l ++ r).dropWhile p = if l = [] then [] else l ++ r := by
    intro l r hl hr
    cases l with
    | nil => exact List.dropWhile_eq_nil_iff.2 hr
    | cons a l => simp [hl a (List.mem_cons_self ..)]
  unfold trimBoth
  rw [List.append_assoc, List.dropWhile_append_of_pos hbefore, hfront hl hafter]
  split
  · next hnil => simp [hnil]
  · next hne =>
    rw [List.reverse_append, List.dropWhile_append_of_pos (by simpa using hafter)]
    have hback := hfront (l := l.reverse) (r := []) (by simpa using hl) (by simp)
    rw [List.append_nil, if_neg (by simpa using hne)] at hback
    rw [hback, List.reverse_reverse]

namespace Text

/-- Characters that are not white space. -/
def Solid (t : Text) : Prop := ∃ cs, t = ofChars cs ∧ ∀ c ∈ cs, isBlank c = false

/-- The text with characters before and after it. -/
def padded (before : List Char) (t : Text) (after : List Char) : Text :=
  ofChars before ++ t ++ ofChars after

theorem Solid.trim_padded {t : Text} (h : t.Solid) {before after : List Char}
    (hbefore : ∀ c ∈ before, isBlank c) (hafter : ∀ c ∈ after, isBlank c) :
    (padded before t after).trim = t := by
  obtain ⟨cs, rfl, hcs⟩ := h
  rw [padded, ← ofChars_append, ← ofChars_append, trim, Rune.runes_ofChars, List.map_append,
    List.map_append, trimBoth_append]
  · rw [← Rune.runes_ofChars, Rune.ofRunes_runes]
  · simpa [Rune.satisfies] using hbefore
  · simpa [Rune.satisfies] using hcs
  · simpa [Rune.satisfies] using hafter

end Text

/-! ### Where a number may stand -/

/-- A text is taken for the number `x` wherever the program runs into it: as an operand and as an
argument, whatever the variables are, and as a line of input, whatever white space is around it. -/
structure ReadAs (t : Text) (x : Float) : Prop where
  operand : ∀ f : Frame, f.operand t = .number x
  argument : ∀ f : Frame, f.argument t = .number x
  input : ∀ before after : List Char, (∀ c ∈ before, isBlank c) → (∀ c ∈ after, isBlank c) →
    Value.ofInput (t.padded before after) = .number x

/-- A text is taken for a number nowhere: as an operand and as an argument it is the name of a
variable, and a line of input with it is text as it is. -/
structure ReadAsName (t : Text) : Prop where
  operand : ∀ f : Frame, f.operand t = (f.get? t).getD .undefined
  argument : ∀ f : Frame, f.argument t = (f.get? t).getD .undefined
  input : ∀ before after : List Char, (∀ c ∈ before, isBlank c) → (∀ c ∈ after, isBlank c) →
    Value.ofInput (t.padded before after) = .text (t.padded before after)

theorem readAs_of_parse? {t : Text} {n : Int} (hparse : Integer.parse? t = some n) (ht : t.Solid)
    (hquote : Token.enclosed? t = none) : ReadAs t (Binary64.ofInt n) := by
  have hoperand : ∀ f : Frame, f.operand t = .number (Binary64.ofInt n) := by
    intro f
    rw [Frame.operand, hparse]
    rfl
  refine ⟨hoperand, fun f => ?_, fun before after hbefore hafter => ?_⟩
  · rw [Frame.argument, hquote]
    exact hoperand f
  · rw [Value.ofInput, ht.trim_padded hbefore hafter, hparse]
    rfl

theorem readAsName_of_parse? {t : Text} (hparse : Integer.parse? t = none) (ht : t.Solid)
    (hquote : Token.enclosed? t = none) : ReadAsName t := by
  have hoperand : ∀ f : Frame, f.operand t = (f.get? t).getD .undefined := by
    intro f
    rw [Frame.operand, hparse]
  refine ⟨hoperand, fun f => ?_, fun before after hbefore hafter => ?_⟩
  · rw [Frame.argument, hquote]
    exact hoperand f
  · rw [Value.ofInput, ht.trim_padded hbefore hafter, hparse]

namespace Integer

/-! ### Digits -/

/-- The byte for a digit. -/
def digitByte (d : Fin 10) : UInt8 := 0x30 + UInt8.ofNat d.val

/-- The text of a string of digits. -/
def digitText (ds : List (Fin 10)) : Text := ds.map digitByte

/-- The value of a string of digits, the last of which are the units. -/
def digitValue (ds : List (Fin 10)) : Nat := Nat.ofDigits 10 (ds.reverse.map Fin.val)

/-- Digits with a sign before them. -/
def signedText (negative : Bool) (ds : List (Fin 10)) : Text :=
  (if negative then 0x2D else 0x2B) :: digitText ds

/-- The value of digits with a sign before them. -/
def signedValue (negative : Bool) (ds : List (Fin 10)) : Int :=
  if negative then -(digitValue ds : Int) else digitValue ds

theorem ofDigits_digitText (ds : List (Fin 10)) : ofDigits (digitText ds) = digitValue ds := by
  induction ds using List.reverseRecOn with
  | nil => rfl
  | append_singleton ds d ih =>
    have hdigit : (digitByte d).toNat - 0x30 = (d : Nat) := by decide +revert
    rw [ofDigits, digitText, List.map_append, List.foldl_append, ← digitText, ← ofDigits, ih]
    simp only [List.map_cons, List.map_nil, List.foldl_cons, List.foldl_nil, hdigit, digitValue,
      List.reverse_append, List.reverse_singleton, List.singleton_append, Nat.ofDigits_cons]
    ring

theorem isIntLiteral_digitText {ds : List (Fin 10)} (hds : ds ≠ []) :
    Token.isIntLiteral (digitText ds) = true := by
  have hdigit : ∀ d, isDigitByte (digitByte d) = true := by decide
  simpa [Token.isIntLiteral, digitText, hdigit] using hds

theorem digitText_eq_ofChars (ds : List (Fin 10)) :
    digitText ds = Text.ofChars (ds.map fun d => Nat.digitChar d.val) := by
  have hdigit : ∀ d : Fin 10, [digitByte d] = Text.ofChar (Nat.digitChar d.val) := by decide
  induction ds with
  | nil => rfl
  | cons d ds ih => exact congrArg₂ (· ++ ·) (hdigit d) ih

theorem isBlank_digitChar : ∀ d : Fin 10, isBlank (Nat.digitChar d.val) = false := by decide

theorem solid_digitText (ds : List (Fin 10)) : (digitText ds).Solid := by
  refine ⟨_, digitText_eq_ofChars ds, fun c hc => ?_⟩
  obtain ⟨d, -, rfl⟩ := List.mem_map.1 hc
  exact isBlank_digitChar d

theorem solid_signedText (negative : Bool) (ds : List (Fin 10)) :
    (signedText negative ds).Solid := by
  obtain ⟨cs, hcs, hblank⟩ := solid_digitText ds
  refine ⟨(if negative then '-' else '+') :: cs, ?_, ?_⟩
  · rw [signedText, hcs]
    cases negative <;> rfl
  · refine List.forall_mem_cons.2 ⟨?_, hblank⟩
    cases negative <;> rfl

theorem enclosed?_digitText (ds : List (Fin 10)) : Token.enclosed? (digitText ds) = none := by
  cases ds with
  | nil => rfl
  | cons d ds =>
    have hdigit : ∀ d, digitByte d ≠ quoteByte := by decide
    exact Token.enclosed?_of_head_ne (hdigit d)

theorem enclosed?_signedText (negative : Bool) (ds : List (Fin 10)) :
    Token.enclosed? (signedText negative ds) = none := by
  refine Token.enclosed?_of_head_ne ?_
  cases negative <;> decide

/-! ### The range -/

theorem unsigned?_digitText {ds : List (Fin 10)} (hds : ds ≠ []) :
    unsigned? (digitText ds) =
      if InRange (digitValue ds) then some (digitValue ds : Int) else none := by
  simp only [unsigned?, isIntLiteral_digitText hds, ofDigits_digitText, true_and]

theorem parse?_digitText {ds : List (Fin 10)} (hds : ds ≠ []) :
    parse? (digitText ds) =
      if InRange (digitValue ds) then some (digitValue ds : Int) else none := by
  obtain ⟨d, ds, rfl⟩ := List.exists_cons_of_ne_nil hds
  have hdigit : ∀ d, digitByte d ≠ 0x2D ∧ digitByte d ≠ 0x2B := by decide
  rw [← unsigned?_digitText hds, digitText, List.map_cons, parse?, if_neg (hdigit d).1,
    if_neg (hdigit d).2]

theorem parse?_signedText (negative : Bool) {ds : List (Fin 10)} (hds : ds ≠ []) :
    parse? (signedText negative ds) =
      if InRange (signedValue negative ds) then some (signedValue negative ds) else none := by
  cases negative with
  | true =>
    simp only [signedText, if_true, parse?, isIntLiteral_digitText hds, ofDigits_digitText,
      true_and, signedValue]
  | false =>
    rw [signedText, if_neg Bool.false_ne_true, parse?, if_neg (by decide), if_pos rfl,
      unsigned?_digitText hds]
    rfl

theorem isNearest_of_inRange {n : Int} (h : InRange n) :
    Binary64.IsNearest (Binary64.ofInt n) n := by
  refine Binary64.isNearest_ofInt n ?_
  by_cases hzero : n.natAbs = 0
  · rw [hzero]
    decide
  · have hlog := (Nat.log2_lt (k := 64) hzero).2 (by unfold InRange at h; omega)
    omega

/-! ### Expressions -/

theorem expression_digitText {ds : List (Fin 10)} (hds : ds ≠ []) (rest : List Token) :
    Syntax.expression (digitText ds :: rest) =
      if InRange (digitValue ds) then .ok (.int (digitValue ds), rest)
      else .error ⟨.integerInRange, digitText ds :: rest⟩ := by
  have hliteral := isIntLiteral_digitText hds
  rw [Syntax.expression, Token.stringLiteral?_of_isIntLiteral hliteral]
  simp only [hliteral, if_true, unsigned?_digitText hds]
  by_cases hin : InRange (digitValue ds)
  · rw [if_pos hin, if_pos hin]
  · rw [if_neg hin, if_neg hin]

/-- What begins with a sign is no literal. -/
theorem expression_signedText (negative : Bool) (ds : List (Fin 10)) (rest : List Token) :
    Syntax.expression (signedText negative ds :: rest) =
      Syntax.binaryExpression (signedText negative ds :: rest) := by
  have hstring : Token.stringLiteral? (signedText negative ds) = none := by
    rw [Token.stringLiteral?, enclosed?_signedText]
    rfl
  have hint : Token.isIntLiteral (signedText negative ds) = false := by cases negative <;> rfl
  have hident : Token.isIdent (signedText negative ds) = false := by cases negative <;> rfl
  rw [Syntax.expression, hstring]
  simp only [hint, hident, Bool.false_eq_true, if_false, false_and]

/-- **All readers of integers agree.**  Let `ds` be digits, with any zeros in front.

* If their value is at most `2 ^ 63 - 1`, the digits are an integer literal of this value.  The
  literal, an operand, an argument and a line of input all give the same number, which is the double
  nearest to the value, whatever variables there are.
* If it is greater, an expression cannot begin with the digits; an operand and an argument are looked
  up, and a line of input is text with all its white space.
* With a sign before them the digits never make an integer literal.  Operands, arguments and lines of
  input give the double nearest to the value with its sign if this fits into sixty-four bits, and are
  a name and text otherwise. -/
theorem readers_agree (ds : List (Fin 10)) (hds : ds ≠ []) :
    (digitValue ds ≤ 2 ^ 63 - 1 →
      ∃ x, Binary64.IsNearest x (digitValue ds) ∧ ReadAs (digitText ds) x ∧
        (∀ rest, Syntax.expression (digitText ds :: rest) = .ok (.int (digitValue ds), rest)) ∧
        ∀ (ρ : Type) (mode : ReturnMode) (n depth : Nat),
          (eval mode (n + 1) depth (.int (digitValue ds)) : Action ρ Value) = pure (.number x)) ∧
    (2 ^ 63 - 1 < digitValue ds →
      ReadAsName (digitText ds) ∧
        ∀ rest, ∃ e, Syntax.expression (digitText ds :: rest) = .error e ∧
          e.expected.describe = utf8 "integer literal in range" ∧ e.rest = digitText ds :: rest) ∧
    ∀ negative : Bool,
      (-2 ^ 63 ≤ signedValue negative ds ∧ signedValue negative ds ≤ 2 ^ 63 - 1 →
        ∃ x, Binary64.IsNearest x (signedValue negative ds) ∧
          ReadAs (signedText negative ds) x) ∧
      (¬(-2 ^ 63 ≤ signedValue negative ds ∧ signedValue negative ds ≤ 2 ^ 63 - 1) →
        ReadAsName (signedText negative ds)) ∧
      ∀ rest e rest', Syntax.expression (signedText negative ds :: rest) = .ok (e, rest') →
        ∀ i, e ≠ .int i := by
  have hrange : ∀ n : Int, InRange n ↔ -2 ^ 63 ≤ n ∧ n ≤ 2 ^ 63 - 1 := fun n => by
    norm_num [InRange]
  refine ⟨fun hvalue => ?_, fun hvalue => ?_, fun negative => ⟨fun hvalue => ?_, fun hvalue => ?_, ?_⟩⟩
  · have hin : InRange (digitValue ds) := (hrange _).2 (by omega)
    have hparse := (parse?_digitText hds).trans (if_pos hin)
    refine ⟨_, by exact_mod_cast isNearest_of_inRange hin,
      readAs_of_parse? hparse (solid_digitText ds) (enclosed?_digitText ds), fun rest => ?_,
      fun ρ mode n depth => rfl⟩
    rw [expression_digitText hds, if_pos hin]
  · have hout : ¬InRange (digitValue ds) := fun hin => by
      have := (hrange _).1 hin
      omega
    have hparse := (parse?_digitText hds).trans (if_neg hout)
    refine ⟨readAsName_of_parse? hparse (solid_digitText ds) (enclosed?_digitText ds), fun rest =>
      ⟨_, (expression_digitText hds rest).trans (if_neg hout), rfl, rfl⟩⟩
  · have hin := (hrange _).2 hvalue
    have hparse := (parse?_signedText negative hds).trans (if_pos hin)
    exact ⟨_, isNearest_of_inRange hin,
      readAs_of_parse? hparse (solid_signedText negative ds) (enclosed?_signedText negative ds)⟩
  · have hparse := (parse?_signedText negative hds).trans (if_neg (mt (hrange _).1 hvalue))
    exact readAsName_of_parse? hparse (solid_signedText negative ds)
      (enclosed?_signedText negative ds)
  · intro rest e rest' hread
    rw [expression_signedText] at hread
    obtain ⟨_, _, _, -, rfl, -⟩ := Syntax.binaryExpression_ok.1 hread
    exact fun i => Expr.noConfusion

/-- The digits of `2 ^ 63` after a zero: too many for an integer, but not after a minus sign. -/
theorem readers_agree_limit :
    let ds : List (Fin 10) := [0, 9, 2, 2, 3, 3, 7, 2, 0, 3, 6, 8, 5, 4, 7, 7, 5, 8, 0, 8]
    ds ≠ [] ∧ ReadAsName (digitText ds) ∧ ReadAsName (signedText false ds) ∧
      ∃ x, Binary64.IsNearest x (-2 ^ 63) ∧ ReadAs (signedText true ds) x := by
  intro ds
  have hds : ds ≠ [] := List.cons_ne_nil _ _
  have hvalue : digitValue ds = 2 ^ 63 := by decide
  obtain ⟨-, hname, hsigned⟩ := readers_agree ds hds
  refine ⟨hds, (hname (by omega)).1, (hsigned false).2.1 ?_, ?_⟩
  · rw [signedValue, hvalue]
    norm_num
  · obtain ⟨x, hx, hread⟩ := (hsigned true).1 (by rw [signedValue, hvalue]; norm_num)
    rw [signedValue, hvalue] at hx
    exact ⟨x, by exact_mod_cast hx, hread⟩

end Integer

end Scriptlet
