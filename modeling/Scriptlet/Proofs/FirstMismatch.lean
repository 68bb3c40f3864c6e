import Scriptlet.Proofs.ParserExact

/-!
# Scriptlet.Proofs.FirstMismatch — a syntax error points at the first wrong token

`Prompt n r` gathers what makes a reader report an error at the right place, for lists of at most
`n` tokens:

* `locality`: where it accepts, it does not depend on the tokens it leaves, except that the next one
  may be an `else` that it would have taken;
* `satisfiable`: it accepts something;
* `points`: where it fails, the tokens before the mismatch can be completed, and nothing after the
  wrong token makes up for it.

Every reader of the parser is prompt.  Sequences of prompt readers are (`Prompt.bind`), so there is
one short lemma for each reader, and an induction on the number of tokens for the nested ones.
-/

namespace Scriptlet

namespace Syntax

open Reader

variable {α β : Type}

/-! ### Prompt readers -/

/-- The tokens `w` may stand in the place of `rest`: no `else` appears that was not there. -/
def Follows (rest w : List Token) : Prop :=
  w.head? = rest.head? ∨ w.head? ≠ some (utf8 "else")

/-- `r` can go on after `pre` with `u`, whatever comes then.  Where nothing has been read yet, `u`
does not begin with `else`, so that it can follow any statement. -/
def CompletedBy (r : Reader α) (pre u : List Token) : Prop :=
  (pre = [] → u.head? ≠ some (utf8 "else")) ∧ ∃ a, ∀ w, r (pre ++ (u ++ w)) = .ok (a, w)

theorem completedBy_cons {r : Reader α} {t : Token} {pre u : List Token} {a : α}
    (h : ∀ w, r (t :: pre ++ (u ++ w)) = .ok (a, w)) : CompletedBy r (t :: pre) u :=
  ⟨fun hnil => absurd hnil (List.cons_ne_nil t pre), a, h⟩

/-- `r` fails after `pre` with the rest `bad`, and the first token of `bad` is to blame. -/
structure FirstWrong (r : Reader α) (e : Expectation) (pre bad : List Token) : Prop where
  completable : ∃ u, CompletedBy r pre u
  stuck : ∀ t bad', bad = t :: bad' → ∀ w, r (pre ++ t :: w) = .error ⟨e, t :: w⟩

/-- The error of `r` on `ts`, if there is one, is at the first wrong token. -/
def PointsAt (r : Reader α) (ts : List Token) : Prop :=
  ∀ e bad, r ts = .error ⟨e, bad⟩ → ∃ pre, ts = pre ++ bad ∧ FirstWrong r e pre bad

structure Prompt (n : Nat) (r : Reader α) : Prop where
  locality : ∀ ts a rest, r ts = .ok (a, rest) →
    ∃ pre, ts = pre ++ rest ∧ ∀ w, Follows rest w → r (pre ++ w) = .ok (a, w)
  satisfiable : ∃ u a, ∀ w, r (u ++ w) = .ok (a, w)
  points : ∀ ts, ts.length ≤ n → PointsAt r ts

theorem follows_append {q rest w : List Token} (h : q = [] → Follows rest w) :
    Follows (q ++ rest) (q ++ w) := by
  cases q with
  | nil => exact h rfl
  | cons t ts => exact .inl rfl

theorem follows_append_cons (q : List Token) (t : Token) (rest w : List Token) :
    Follows (q ++ t :: rest) (q ++ t :: w) :=
  follows_append fun _ => .inl rfl

/-- A failure is not a matter of the tokens after the wrong one, so what was read before it is not
affected either. -/
theorem PointsAt.bind {r : Reader α} {f : α → Reader β} {ts : List Token} (hr : PointsAt r ts)
    (hl : ∀ a rest, r ts = .ok (a, rest) →
      ∃ pre, ts = pre ++ rest ∧ ∀ w, Follows rest w → r (pre ++ w) = .ok (a, w))
    (hf : ∀ a mid, r ts = .ok (a, mid) → PointsAt (f a) mid)
    (hs : ∀ a, ∃ u b, ∀ w, f a (u ++ w) = .ok (b, w)) : PointsAt (r >>= f) ts := by
  intro e bad h
  rcases bind_error.1 h with h | ⟨a, mid, h₁, h₂⟩
  · -- the first reader fails; after its completion the second one needs its own
    obtain ⟨pre, hts, ⟨u, hu, a, ha⟩, hstuck⟩ := hr e bad h
    obtain ⟨u', b, hb⟩ := hs a
    refine ⟨pre, hts, ⟨u ++ u', ?_, b, fun w => ?_⟩, fun t bad' hbad w => ?_⟩
    · intro hpre
      cases u with
      | nil =>
        subst hpre
        exact absurd ((ha ts).symm.trans h) (by simp)
      | cons v vs => exact hu hpre
    · rw [List.append_assoc, bind_of_ok (ha (u' ++ w))]
      exact hb w
    · exact bind_of_error (hstuck t bad' hbad w)
  · -- the second reader fails
    obtain ⟨p, rfl, hp⟩ := hl a mid h₁
    obtain ⟨q, rfl, ⟨u, hu, b, hb⟩, hstuck⟩ := hf a mid h₁ e bad h₂
    refine ⟨p ++ q, by rw [List.append_assoc],
      ⟨u, fun hpq => hu (List.append_eq_nil_iff.1 hpq).2, b, fun w => ?_⟩, fun t bad' hbad w => ?_⟩
    · have hfollow : Follows (q ++ bad) (q ++ (u ++ w)) := by
        refine follows_append fun hq => ?_
        subst hq
        cases u with
        | nil => exact absurd ((hb bad).symm.trans h₂) (by simp)
        | cons v vs => exact .inr (hu rfl)
      rw [List.append_assoc, bind_of_ok (hp _ hfollow)]
      exact hb w
    · subst hbad
      rw [List.append_assoc, bind_of_ok (hp _ (follows_append_cons q t bad' w))]
      exact hstuck t bad' rfl w

theorem Prompt.bind {n : Nat} {r : Reader α} {f : α → Reader β} (hr : Prompt n r)
    (hf : ∀ a, Prompt n (f a)) : Prompt n (r >>= f) where
  locality := by
    intro ts b rest h
    obtain ⟨a, mid, h₁, h₂⟩ := bind_ok.1 h
    obtain ⟨p, rfl, hp⟩ := hr.locality ts a mid h₁
    obtain ⟨q, rfl, hq⟩ := (hf a).locality mid b rest h₂
    refine ⟨p ++ q, by rw [List.append_assoc], fun w hw => ?_⟩
    rw [List.append_assoc, bind_of_ok (hp (q ++ w) (follows_append fun _ => hw))]
    exact hq w hw
  satisfiable := by
    obtain ⟨u, a, ha⟩ := hr.satisfiable
    obtain ⟨u', b, hb⟩ := (hf a).satisfiable
    refine ⟨u ++ u', b, fun w => ?_⟩
    rw [List.append_assoc, bind_of_ok (ha (u' ++ w))]
    exact hb w
  points := by
    intro ts hts
    refine (hr.points ts hts).bind (hr.locality ts) (fun a mid h => ?_) fun a => (hf a).satisfiable
    obtain ⟨p, rfl, -⟩ := hr.locality ts a mid h
    rw [List.length_append] at hts
    exact (hf a).points mid (by omega)

/-- The reader stops at `t`, whatever follows it. -/
theorem PointsAt.of_stuck {r : Reader α} {e : Expectation} {pre u ts : List Token} {t : Token}
    (hc : CompletedBy r pre u) (h : ∀ w, r (pre ++ t :: w) = .error ⟨e, t :: w⟩) :
    PointsAt r (pre ++ t :: ts) := by
  intro e' bad he
  cases (h ts).symm.trans he
  refine ⟨pre, rfl, ⟨u, hc⟩, ?_⟩
  rintro t' bad' heq w
  cases heq
  exact h w

/-- The reader stops at the end of the input. -/
theorem PointsAt.of_end {r : Reader α} {e : Expectation} {pre u : List Token}
    (hc : CompletedBy r pre u) (h : r pre = .error ⟨e, []⟩) : PointsAt r pre := by
  intro e' bad he
  cases h.symm.trans he
  exact ⟨pre, (List.append_nil pre).symm, ⟨u, hc⟩, nofun⟩

/-- After the tokens `q`, the reader goes on as `r'`, provided `v` comes next; and `v` is not wrong
for `r'`. -/
theorem PointsAt.of_append {r r' : Reader α} {q v ts : List Token} (hne : q ++ v ≠ [])
    (h : ∀ w, r (q ++ (v ++ w)) = r' (v ++ w)) (hv : ∃ w x, r' (v ++ w) = .ok x)
    (hr : PointsAt r' (v ++ ts)) : PointsAt r (q ++ (v ++ ts)) := by
  intro e bad he
  rw [h] at he
  obtain ⟨pre, hts, ⟨u, -, a, ha⟩, hstuck⟩ := hr e bad he
  obtain ⟨p, rfl, rfl⟩ : ∃ p, pre = v ++ p ∧ ts = p ++ bad := by
    rcases List.append_eq_append_iff.1 hts with hp | ⟨c, rfl, rfl⟩
    · exact hp
    · cases c with
      | nil => exact ⟨[], by simp, by simp⟩
      | cons x c =>
        obtain ⟨w, y, hw⟩ := hv
        have hx := hstuck x (c ++ ts) rfl (c ++ w)
        rw [List.append_assoc] at hw
        exact absurd (hw.symm.trans hx) (by simp)
  refine ⟨q ++ (v ++ p), by simp only [List.append_assoc],
    ⟨u, fun hnil => absurd hnil ?_, a, fun w => ?_⟩, fun t bad' hbad w => ?_⟩
  · rw [← List.append_assoc]
    exact List.append_ne_nil_of_left_ne_nil hne p
  · rw [List.append_assoc, List.append_assoc, h, ← List.append_assoc]
    exact ha w
  · rw [List.append_assoc, List.append_assoc, h, ← List.append_assoc]
    exact hstuck t bad' hbad w

/-! ### Readers that do not nest -/

variable {n : Nat}

theorem prompt_pure (a : α) : Prompt n (pure a : Reader α) where
  locality := by
    intro ts b rest h
    obtain ⟨rfl, rfl⟩ := pure_ok.1 h
    exact ⟨[], rfl, fun w _ => rfl⟩
  satisfiable := ⟨[], a, fun w => rfl⟩
  points := by
    intro ts _ e bad h
    cases h

/-- A token with property `p` completes the reader of such tokens. -/
theorem prompt_satisfy (e : Expectation) (p : Token → Bool) {x : Token} (hx : p x)
    (helse : x ≠ utf8 "else") : Prompt n (satisfy e p) where
  locality := by
    intro ts t rest h
    obtain ⟨rfl, ht⟩ := satisfy_ok.1 h
    exact ⟨[t], rfl, fun w _ => satisfy_ok.2 ⟨rfl, ht⟩⟩
  satisfiable := ⟨[x], x, fun w => satisfy_ok.2 ⟨rfl, hx⟩⟩
  points := by
    intro ts _
    have hcompleted : CompletedBy (satisfy e p) [] [x] :=
      ⟨fun _ => by simpa using helse, x, fun w => satisfy_ok.2 ⟨rfl, hx⟩⟩
    cases ts with
    | nil => exact .of_end hcompleted rfl
    | cons t ts =>
      by_cases ht : p t
      · intro e' bad h
        simp [satisfy, ht] at h
      · exact .of_stuck hcompleted fun w => if_neg ht

theorem prompt_any (e : Expectation) : Prompt n (any e) :=
  prompt_satisfy e _ (x := utf8 "x") rfl (by simp [utf8_inj])

theorem prompt_identifier : Prompt n identifier :=
  prompt_satisfy _ _ (x := utf8 "x") (by decide) (by simp [utf8_inj])

theorem prompt_symbol {s : Token} (helse : s ≠ utf8 "else") : Prompt n (symbol s) :=
  (prompt_satisfy (.symbol s) (· == s) (beq_self_eq_true s) helse).bind fun _ => prompt_pure _

theorem prompt_triple (e : Expectation) (isOp : Token → Bool) {x : Token} (hx : isOp x)
    (helse : x ≠ utf8 "else") : Prompt n (triple e isOp) :=
  (prompt_any _).bind fun _ => (prompt_satisfy e isOp hx helse).bind fun _ =>
    (prompt_any _).bind fun _ => prompt_pure _

theorem prompt_condition : Prompt n condition :=
  (prompt_triple _ _ (x := utf8 "<") (by decide) (by simp [utf8_inj])).bind fun _ => prompt_pure _

theorem prompt_guard : Prompt n guard :=
  (prompt_symbol (by simp [utf8_inj])).bind fun _ => prompt_condition.bind fun _ =>
    (prompt_symbol (by simp [utf8_inj])).bind fun _ => prompt_pure _

theorem pointsAt_commaList (e : Expectation) (p : Token → Bool) {x : Token} (hx : p x)
    (helse : x ≠ utf8 "else") (ts : List Token) : PointsAt (commaList e p) ts := by
  have hitem : CompletedBy (commaList e p) [] [x, utf8 ")"] :=
    ⟨fun _ => by simpa using helse, [x], fun w => by simp [commaList, hx, utf8_inj]⟩
  have hclose : ∀ t, p t → CompletedBy (commaList e p) [t] [utf8 ")"] := fun t ht =>
    completedBy_cons (a := [t]) fun w => by simp [commaList, ht, utf8_inj]
  fun_induction commaList e p ts with
  | case1 => exact .of_end hitem rfl
  | case2 t ht => exact .of_end (e := .symbol (utf8 ")")) (hclose t ht) (by simp [commaList, ht])
  | case3 t ht ts l rest hl =>
    intro e' bad h
    simp [commaList, ht, hl] at h
  | case4 t ht ts m hts ih =>
    -- the rest of the list fails, after an element and a comma
    intro e' bad h
    simp only [commaList, ht, if_true, hts] at h
    cases h
    obtain ⟨pre, rfl, ⟨u, -, l, hl⟩, hstuck⟩ := ih e' bad hts
    refine ⟨t :: utf8 "," :: pre, rfl, ⟨u, completedBy_cons (a := t :: l) fun w => ?_⟩,
      fun v bad' hbad w => ?_⟩
    · simp [commaList, ht, hl w]
    · simp [commaList, ht, hstuck v bad' hbad w]
  | case5 t ht ts =>
    intro e' bad h
    simp [commaList, ht, utf8_inj] at h
  | case6 t ht v ts hcomma hparen =>
    exact PointsAt.of_stuck (e := .symbol (utf8 ")")) (hclose t ht) fun w => by
      simp [commaList, ht, hcomma, hparen]
  | case7 t ts ht =>
    refine .of_stuck (e := e) hitem fun w => ?_
    unfold commaList
    exact if_neg ht

theorem prompt_parenthesised (e : Expectation) (p : Token → Bool) (hp : p (utf8 ")") = false)
    {x : Token} (hx : p x) (helse : x ≠ utf8 "else") : Prompt n (parenthesised e p) where
  locality := by
    intro ts l rest h
    obtain ⟨hall, rfl⟩ := (parenthesised_ok hp).1 h
    exact ⟨parenTokens l, rfl, fun w _ => (parenthesised_ok hp).2 ⟨hall, rfl⟩⟩
  satisfiable := ⟨parenTokens [], [], fun w => (parenthesised_ok hp).2 ⟨by simp, rfl⟩⟩
  points := by
    intro ts hts
    have hopen : Prompt n (symbol (utf8 "(")) := prompt_symbol (by simp [utf8_inj])
    refine (hopen.points ts hts).bind (hopen.locality ts) (fun _ mid _ => ?_)
      fun _ => ⟨[utf8 ")"], [], fun w => rfl⟩
    intro e' bad h
    by_cases hhead : mid.head? = some (utf8 ")")
    · obtain ⟨mid', rfl⟩ := List.head?_eq_some_iff.1 hhead
      rw [at?_pos, bind_of_ok (symbol_cons _ _)] at h
      cases h
    · -- an element begins here, unless the list is completed as an empty one
      rw [at?_neg hhead] at h
      obtain ⟨pre, rfl, ⟨u, -, l, hl⟩, hstuck⟩ := pointsAt_commaList e p hx helse mid e' bad h
      cases pre with
      | nil =>
        refine ⟨[], rfl, ⟨[utf8 ")"], fun _ => by simp [utf8_inj], [], fun w => rfl⟩, ?_⟩
        rintro t bad' rfl w
        exact (at?_neg (by simpa using hhead)).trans (hstuck t bad' rfl w)
      | cons v vs =>
        refine ⟨v :: vs, rfl, ⟨u, completedBy_cons (a := l) fun w => ?_⟩,
          fun t bad' hbad w => ?_⟩
        · exact (at?_neg (by simpa using hhead)).trans (hl w)
        · exact (at?_neg (by simpa using hhead)).trans (hstuck t bad' hbad w)

theorem prompt_parameters : Prompt n parameters :=
  prompt_parenthesised _ _ (by decide) (x := utf8 "x") (by decide) (by simp [utf8_inj])

theorem prompt_arguments : Prompt n arguments :=
  prompt_parenthesised _ _ (by decide) (x := utf8 "x") (by decide) (by simp [utf8_inj])

/-! ### Expressions -/

theorem expression_call {t : Token} (ht : t.isIdent) (w : List Token) :
    expression (t :: utf8 "(" :: w) = callExpression t (utf8 "(" :: w) := by
  simp [expression, Token.stringLiteral?_of_isIdent ht, Token.isIntLiteral_of_isIdent ht, ht]

theorem expression_binary {t o : Token} (hs : t.stringLiteral? = none)
    (hi : t.isIntLiteral = false) (hc : ¬ (t.isIdent ∧ o = utf8 "(")) (w : List Token) :
    expression (t :: o :: w) = binaryExpression (t :: o :: w) := by
  have hc' : ¬ (t.isIdent ∧ (o :: w).head? = some (utf8 "(")) := by simpa using hc
  simp only [expression, hs, hi, Bool.false_eq_true, if_false, if_neg hc']

theorem wellFormed_empty_literal : Expr.WellFormed (.str []) :=
  fun b hb => by cases hb

theorem expression_empty_literal (w : List Token) :
    expression ([[quoteByte, quoteByte]] ++ w) = .ok (.str [], w) :=
  expression_complete wellFormed_empty_literal .str

theorem prompt_callExpression (name : Token) : Prompt n (callExpression name) :=
  prompt_arguments.bind fun _ => prompt_pure _

theorem prompt_binaryExpression : Prompt n binaryExpression :=
  (prompt_triple _ _ (x := utf8 "+") (by decide) (by simp [utf8_inj])).bind fun _ => prompt_pure _

theorem pointsAt_expression_binary {t : Token} {ts : List Token} (hs : t.stringLiteral? = none)
    (hi : t.isIntLiteral = false) (hc : ¬ (t.isIdent ∧ ts.head? = some (utf8 "("))) :
    PointsAt expression (t :: ts) := by
  have hplus : CompletedBy expression [t] [utf8 "+", utf8 "x"] :=
    completedBy_cons fun w => (expression_binary hs hi (by simp [utf8_inj]) _).trans
      (binaryExpression_ok.2 ⟨t, _, _, by decide, rfl, rfl⟩)
  cases ts with
  | nil =>
    refine .of_end (e := .arithmeticOperator) hplus ?_
    simp only [expression, hs, hi, hc, Bool.false_eq_true, if_false]
    rfl
  | cons o ts =>
    have hc' : ¬ (t.isIdent ∧ o = utf8 "(") := by simpa using hc
    by_cases ho : (ArithOp.ofToken? o).isSome
    · refine PointsAt.of_append (q := []) (v := [t, o]) (List.cons_ne_nil _ _)
        (fun w => expression_binary hs hi hc' w)
        ⟨[utf8 "x"], _, binaryExpression_ok.2 ⟨t, o, utf8 "x", ho, rfl, rfl⟩⟩ ?_
      exact prompt_binaryExpression.points _ (Nat.le_refl _)
    · refine PointsAt.of_stuck (e := .arithmeticOperator) hplus fun w => ?_
      refine (expression_binary hs hi hc' w).trans (bind_of_error ?_)
      refine (bind_of_ok (any_ok.2 rfl)).trans (bind_of_error ?_)
      exact if_neg ho

theorem prompt_expression : Prompt n expression where
  locality := by
    intro ts e rest h
    obtain ⟨hw, pre, hs, rfl⟩ := expression_sound h
    exact ⟨pre, rfl, fun w _ => expression_complete hw hs⟩
  satisfiable := ⟨_, _, expression_empty_literal⟩
  points := by
    intro ts _
    have hliteral : CompletedBy expression [] [[quoteByte, quoteByte]] :=
      ⟨fun _ => by decide, _, expression_empty_literal⟩
    cases ts with
    | nil => exact .of_end hliteral rfl
    | cons t ts =>
      cases hs : Token.stringLiteral? t with
      | some inner =>
        intro e bad h
        simp [expression, hs] at h
      | none =>
        cases hi : Token.isIntLiteral t with
        | true =>
          cases hv : Integer.unsigned? t with
          | some v =>
            intro e bad h
            simp [expression, hs, hi, hv] at h
          | none =>
            exact .of_stuck (e := .integerInRange) hliteral fun w => by
              simp [expression, hs, hi, hv]
        | false =>
          by_cases hc : t.isIdent ∧ ts.head? = some (utf8 "(")
          · obtain ⟨ht, hhead⟩ := hc
            obtain ⟨ts', rfl⟩ := List.head?_eq_some_iff.1 hhead
            refine PointsAt.of_append (q := [t]) (v := [utf8 "("]) (List.cons_ne_nil _ _)
              (fun w => expression_call ht w)
              ⟨[utf8 ")"], _, callExpression_ok.2 ⟨[], by simp, rfl, rfl⟩⟩ ?_
            exact (prompt_callExpression t).points _ (Nat.le_refl _)
          · exact pointsAt_expression_binary hs hi hc

/-! ### Statements and blocks -/

theorem prompt_binding (make : Token → Expr → Stmt) : Prompt n (binding make) :=
  prompt_identifier.bind fun _ => (prompt_symbol (by simp [utf8_inj])).bind fun _ =>
    prompt_expression.bind fun _ => (prompt_symbol (by simp [utf8_inj])).bind fun _ => prompt_pure _

theorem prompt_callStatement (name : Token) : Prompt n (callStatement name) :=
  prompt_arguments.bind fun _ => (prompt_symbol (by simp [utf8_inj])).bind fun _ => prompt_pure _

theorem prompt_block {body : Reader (List Stmt)} (hb : Prompt n body) : Prompt n (block body) :=
  (prompt_symbol (by simp [utf8_inj])).bind fun _ => hb

/-- The part after `else` is the one place where the next token decides whether to go on. -/
theorem prompt_alternative {r : Reader β} (hr : Prompt n r) (f : β → α) (a : α) :
    Prompt n (do
      if ← at? (utf8 "else") then
        symbol (utf8 "else")
        let b ← r
        return f b
      else return a) := by
  have htail : Prompt n (r >>= fun b => pure (f b)) := hr.bind fun b => prompt_pure (f b)
  have helse : ∀ w, (do
      if ← at? (utf8 "else") then
        symbol (utf8 "else")
        let b ← r
        return f b
      else return a : Reader α) (utf8 "else" :: w) = (r >>= fun b => pure (f b)) w :=
    fun w => at?_pos.trans (bind_of_ok (symbol_cons _ _))
  constructor
  case locality =>
    intro ts c rest h
    by_cases hhead : ts.head? = some (utf8 "else")
    · obtain ⟨ts', rfl⟩ := List.head?_eq_some_iff.1 hhead
      rw [helse] at h
      obtain ⟨pre, rfl, hpre⟩ := htail.locality ts' c rest h
      exact ⟨utf8 "else" :: pre, rfl, fun w hw => (helse _).trans (hpre w hw)⟩
    · rw [at?_neg hhead] at h
      obtain ⟨rfl, rfl⟩ := pure_ok.1 h
      refine ⟨[], rfl, fun w hw => at?_neg ?_⟩
      exact hw.elim (fun heq => heq ▸ hhead) id
  case satisfiable =>
    obtain ⟨u, c, hc⟩ := htail.satisfiable
    exact ⟨utf8 "else" :: u, c, fun w => (helse _).trans (hc w)⟩
  case points =>
    intro ts hts
    by_cases hhead : ts.head? = some (utf8 "else")
    · obtain ⟨ts', rfl⟩ := List.head?_eq_some_iff.1 hhead
      obtain ⟨u, c, hc⟩ := htail.satisfiable
      exact PointsAt.of_append (q := [utf8 "else"]) (v := []) (List.cons_ne_nil _ _) helse
        ⟨u ++ [], _, hc []⟩ (htail.points ts' (Nat.le_of_succ_le hts))
    · intro e bad h
      rw [at?_neg hhead] at h
      cases h

theorem prompt_keywordStatement {stmt : Reader Stmt} {body : Reader (List Stmt)}
    (hs : Prompt n stmt) (hb : Prompt n body) (k : Keyword) :
    Prompt n (keywordStatement stmt body k) := by
  have hsym : ∀ {s : Token} {r : Unit → Reader Stmt}, s ≠ utf8 "else" → (∀ a, Prompt n (r a)) →
      Prompt n (symbol s >>= r) := fun hne hr => (prompt_symbol hne).bind hr
  cases k with
  | int => exact prompt_binding _
  | print =>
    exact (prompt_any _).bind fun _ => hsym (by simp [utf8_inj]) fun _ => prompt_pure _
  | read => exact prompt_identifier.bind fun _ => hsym (by simp [utf8_inj]) fun _ => prompt_pure _
  | «if» =>
    exact prompt_guard.bind fun _ => (prompt_block hb).bind fun _ =>
      prompt_alternative (prompt_block hb) _ _
  | «while» =>
    exact prompt_guard.bind fun _ => (prompt_block hb).bind fun _ => prompt_pure _
  | «for» =>
    exact hsym (by simp [utf8_inj]) fun _ => hs.bind fun _ => prompt_condition.bind fun _ =>
      hsym (by simp [utf8_inj]) fun _ => hs.bind fun _ => hsym (by simp [utf8_inj]) fun _ =>
        (prompt_block hb).bind fun _ => prompt_pure _
  | «fun» =>
    exact prompt_identifier.bind fun _ => prompt_parameters.bind fun _ =>
      (prompt_block hb).bind fun _ => prompt_pure _
  | «return» =>
    exact prompt_expression.bind fun _ => hsym (by simp [utf8_inj]) fun _ => prompt_pure _

/-! ### The nested readers -/

theorem Follows.mayFollow {s : Stmt} {rest w : List Token} (hw : Follows rest w)
    (hf : s.MayFollow rest) : s.MayFollow w :=
  fun hlacks => hw.elim (fun heq => heq ▸ hf hlacks) id

theorem locality_stmtReader (ts : List Token) (s : Stmt) (rest : List Token)
    (h : stmtReader ts = .ok (s, rest)) :
    ∃ pre, ts = pre ++ rest ∧ ∀ w, Follows rest w → stmtReader (pre ++ w) = .ok (s, w) := by
  obtain ⟨hwf, hf, pre, hpre, rfl⟩ := stmtReader_sound ts s rest h
  exact ⟨pre, rfl, fun w hw => stmtReader_complete hpre hwf (hw.mayFollow hf)⟩

theorem locality_bodyReader (ts : List Token) (ss : List Stmt) (rest : List Token)
    (h : bodyReader ts = .ok (ss, rest)) :
    ∃ pre, ts = pre ++ rest ∧ ∀ w, Follows rest w → bodyReader (pre ++ w) = .ok (ss, w) := by
  obtain ⟨hwf, pre, hpre, rfl⟩ := bodyReader_sound ts ss rest h
  refine ⟨pre ++ [utf8 "\x7d"], by simp, fun w _ => ?_⟩
  rw [List.append_assoc]
  exact bodyReader_complete hpre hwf w

theorem stmtReader_print (w : List Token) :
    stmtReader ([utf8 "print", utf8 "x", utf8 ";"] ++ w) = .ok (.print (utf8 "x"), w) :=
  stmtReader_complete (s := .print (utf8 "x")) .print trivial nofun

theorem bodyReader_close (w : List Token) : bodyReader ([utf8 "\x7d"] ++ w) = .ok ([], w) :=
  bodyReader_complete .nil trivial w

/-- A statement that begins with a plain name goes on with `=` or with the arguments of a call. -/
theorem pointsAt_stmtReader_name {t : Token} {ts : List Token} (hk : Keyword.ofToken? t = none)
    (ht : t.isIdent) : PointsAt stmtReader (t :: ts) := by
  have hstep : ∀ w, stmtReader (t :: w) =
      if w.head? = some (utf8 "=") then binding .assign (t :: w)
      else if w.head? = some (utf8 "(") then callStatement t w
      else .error ⟨.assignmentOrCall, w⟩ := by
    intro w
    rw [stmtReader_cons, statementStep, hk]
    exact if_pos ht
  have hcall : ∀ w, stmtReader (t :: utf8 "(" :: w) = callStatement t (utf8 "(" :: w) := by
    intro w
    rw [hstep, if_neg (by simp [utf8_inj])]
    exact if_pos rfl
  have hempty : ∀ w,
      callStatement t (utf8 "(" :: utf8 ")" :: utf8 ";" :: w) = .ok (.call t [], w) :=
    fun w => bind_ok.2 ⟨[], _, arguments_ok.2 ⟨by simp, rfl⟩,
      bind_ok.2 ⟨(), _, symbol_cons _ _, rfl⟩⟩
  by_cases hassign : ts.head? = some (utf8 "=")
  · obtain ⟨ts', rfl⟩ := List.head?_eq_some_iff.1 hassign
    have hliteral : binding .assign (t :: utf8 "=" :: [[quoteByte, quoteByte], utf8 ";"]) =
        .ok (.assign t (.str []), []) :=
      binding_complete ht wellFormed_empty_literal .str
    exact PointsAt.of_append (q := []) (v := [t, utf8 "="]) (List.cons_ne_nil _ _)
      (fun w => (hstep _).trans (if_pos rfl)) ⟨_, _, hliteral⟩
      ((prompt_binding .assign).points _ (Nat.le_refl _))
  · by_cases hparen : ts.head? = some (utf8 "(")
    · obtain ⟨ts', rfl⟩ := List.head?_eq_some_iff.1 hparen
      exact PointsAt.of_append (q := [t]) (v := [utf8 "("]) (List.cons_ne_nil _ _) hcall
        ⟨_, _, hempty []⟩ ((prompt_callStatement t).points _ (Nat.le_refl _))
    · have hcompleted : CompletedBy stmtReader [t] [utf8 "(", utf8 ")", utf8 ";"] :=
        completedBy_cons fun w => (hcall _).trans (hempty w)
      have hstuck : ∀ w, w.head? = ts.head? →
          stmtReader (t :: w) = .error ⟨.assignmentOrCall, w⟩ := by
        intro w hw
        rw [hstep, hw, if_neg hassign, if_neg hparen]
      cases ts with
      | nil => exact .of_end hcompleted (hstuck [] rfl)
      | cons v vs => exact PointsAt.of_stuck hcompleted fun w => hstuck (v :: w) rfl

theorem pointsAt_stmtReader {ts : List Token}
    (ih : ∀ m, m < ts.length → Prompt m stmtReader ∧ Prompt m bodyReader) :
    PointsAt stmtReader ts := by
  have hprint : CompletedBy stmtReader [] [utf8 "print", utf8 "x", utf8 ";"] :=
    ⟨fun _ => by simp [utf8_inj], _, stmtReader_print⟩
  cases ts with
  | nil => exact .of_end hprint stmtReader_nil
  | cons t ts =>
    cases hk : Keyword.ofToken? t with
    | some k =>
      obtain ⟨hs, hb⟩ := ih ts.length (Nat.lt_succ_self _)
      have hprompt := prompt_keywordStatement hs hb k
      obtain ⟨u, s, hu⟩ := hprompt.satisfiable
      refine PointsAt.of_append (q := [t]) (v := []) (List.cons_ne_nil _ _) (fun w => ?_)
        ⟨u ++ [], _, hu []⟩ (hprompt.points ts (Nat.le_refl _))
      exact (stmtReader_cons t w).trans (by rw [statementStep, hk]; rfl)
    | none =>
      by_cases ht : t.isIdent
      · exact pointsAt_stmtReader_name hk ht
      · refine .of_stuck (e := .statement) hprint fun w => ?_
        refine (stmtReader_cons t w).trans ?_
        rw [statementStep, hk]
        exact if_neg ht

theorem pointsAt_bodyReader {ts : List Token} (hs : PointsAt stmtReader ts)
    (ih : ∀ us, us.length < ts.length → PointsAt bodyReader us) : PointsAt bodyReader ts := by
  have hclose : CompletedBy bodyReader [] [utf8 "\x7d"] :=
    ⟨fun _ => by simp [utf8_inj], _, bodyReader_close⟩
  cases ts with
  | nil => exact .of_end hclose bodyReader_nil
  | cons t ts =>
    intro e bad h
    by_cases ht : t = utf8 "\x7d"
    · rw [bodyReader_cons, if_pos ht] at h
      cases h
    · have hcons : ∀ w, bodyReader (t :: w) = consReader stmtReader bodyReader (t :: w) :=
        fun w => (bodyReader_cons t w).trans (if_neg ht)
      have hpoints : PointsAt (consReader stmtReader bodyReader) (t :: ts) := by
        refine hs.bind (locality_stmtReader _) (fun s mid hmid => ?_)
          fun s => ⟨[utf8 "\x7d"], [s], fun w => bind_of_ok (bodyReader_close w)⟩
        exact (ih mid (length_of_stmtReader hmid)).bind (locality_bodyReader mid)
          (fun ss mid' _ => (prompt_pure _).points mid' (Nat.le_refl _))
          fun ss => ⟨[], s :: ss, fun w => rfl⟩
      obtain ⟨pre, hpre, ⟨u, -, ss, hss⟩, hstuck⟩ := hpoints e bad ((hcons ts).symm.trans h)
      -- before its first statement a block can be closed, after it the reader goes on the same way
      cases pre with
      | nil =>
        obtain rfl : t :: ts = bad := hpre
        refine ⟨[], rfl, ⟨_, hclose⟩, ?_⟩
        rintro t' bad' heq w
        cases heq
        exact (hcons w).trans (hstuck t ts rfl w)
      | cons v vs =>
        obtain ⟨rfl, rfl⟩ := List.cons.inj hpre
        exact ⟨t :: vs, rfl, ⟨u, completedBy_cons fun w => (hcons _).trans (hss w)⟩,
          fun t' bad' hbad w => (hcons _).trans (hstuck t' bad' hbad w)⟩

/-- Every statement and every block is read promptly, by induction on the number of tokens: what
stands inside a statement is shorter than it is. -/
theorem prompt_stmtReader_bodyReader (n : Nat) : Prompt n stmtReader ∧ Prompt n bodyReader := by
  induction n using Nat.strongRecOn with
  | ind n ih =>
    have hs : ∀ ts : List Token, ts.length ≤ n → PointsAt stmtReader ts := fun ts hts =>
      pointsAt_stmtReader fun m hm => ih m (Nat.lt_of_lt_of_le hm hts)
    have hb : ∀ ts : List Token, ts.length ≤ n → PointsAt bodyReader ts := fun ts hts =>
      pointsAt_bodyReader (hs ts hts) fun us hus =>
        (ih us.length (Nat.lt_of_lt_of_le hus hts)).2.points us (Nat.le_refl _)
    exact ⟨⟨locality_stmtReader, ⟨_, _, stmtReader_print⟩, hs⟩,
      ⟨locality_bodyReader, ⟨_, _, bodyReader_close⟩, hb⟩⟩

/-- Statements up to the end of the input: the tokens before a mismatch begin a program, and no
program begins with them and the wrong token. -/
theorem programReader_error {ts bad : List Token} {e : Expectation}
    (h : programReader ts = .error ⟨e, bad⟩) :
    ∃ pre, ts = pre ++ bad ∧
      (∃ u p, (pre = [] → u.head? ≠ some (utf8 "else")) ∧ programReader (pre ++ u) = .ok p) ∧
      ∀ t bad', bad = t :: bad' → ∀ w, programReader (pre ++ t :: w) = .error ⟨e, t :: w⟩ := by
  induction hn : ts.length using Nat.strongRecOn generalizing ts with
  | ind n ih =>
    have hne : ts ≠ [] := by
      rintro rfl
      cases h
    cases hs : stmtReader ts with
    | error m =>
      cases (programReader_of_error hne hs).symm.trans h
      obtain ⟨pre, rfl, ⟨u, hu, s, hok⟩, hstuck⟩ :=
        (prompt_stmtReader_bodyReader n).1.points ts (Nat.le_of_eq hn) e bad hs
      refine ⟨pre, rfl, ⟨u, [s], hu, ?_⟩, fun t bad' hbad w => ?_⟩
      · have hok' := programReader_of_ok (hok [])
        rw [List.append_nil] at hok'
        exact hok'
      · exact programReader_of_error (by simp) (hstuck t bad' hbad w)
    | ok q =>
      obtain ⟨s, rest⟩ := q
      obtain ⟨p, rfl, hp⟩ := locality_stmtReader ts s rest hs
      rw [programReader_of_ok hs] at h
      have hrest : programReader rest = .error ⟨e, bad⟩ := by
        cases hr : programReader rest with
        | ok ss => rw [hr] at h; cases h
        | error m => rw [hr] at h; cases h; rfl
      obtain ⟨q, rfl, ⟨u, ss, hu, hok⟩, hstuck⟩ :=
        ih rest.length (hn ▸ length_of_stmtReader hs) hrest rfl
      refine ⟨p ++ q, by rw [List.append_assoc],
        ⟨u, s :: ss, fun hpq => hu (List.append_eq_nil_iff.1 hpq).2, ?_⟩, fun t bad' hbad w => ?_⟩
      · rw [List.append_assoc, programReader_of_ok (hp _ (follows_append fun hq => .inr (hu hq))),
          hok]
        rfl
      · subst hbad
        rw [List.append_assoc, programReader_of_ok (hp _ (follows_append_cons q t bad' w)),
          hstuck t bad' rfl w]
        rfl

end Syntax

/-- **Syntax errors point at the first wrong token.**  The position is that of a token or the end of
the input, and the token reported is the one found there.  Something can be written after the tokens
before it to make a program; with the token at the position nothing can. -/
theorem parse_error_first_wrong {ts : List Token} {e : SyntaxError} (h : parse ts = .error e) :
    e.position ≤ ts.length ∧
      (∀ _ : e.position < ts.length, e.found = ts[e.position]) ∧
      (e.position = ts.length → e.found = SyntaxError.endMark) ∧
      (∃ u p, parse (ts.take e.position ++ u) = .ok p) ∧
      (e.position < ts.length → ∀ w p, parse (ts.take (e.position + 1) ++ w) ≠ .ok p) := by
  obtain ⟨⟨expected, bad⟩, hm, rfl⟩ := parse_eq_error.1 h
  obtain ⟨pre, rfl, ⟨u, p, -, hu⟩, hstuck⟩ := Syntax.programReader_error hm
  have hpos : (pre ++ bad).length - bad.length = pre.length := by simp
  simp only [hpos, List.take_left]
  refine ⟨by simp, fun hlt => ?_, fun heq => ?_, ⟨u, p, parse_eq_ok.2 hu⟩, fun hlt w q => ?_⟩
  · cases bad with
    | nil => simp at hlt
    | cons t bad' => simp [SyntaxError.found]
  · obtain rfl : bad = [] := by simpa using heq
    rfl
  · cases bad with
    | nil => simp at hlt
    | cons t bad' =>
      have htake : (pre ++ t :: bad').take (pre.length + 1) = pre ++ [t] :=
        List.take_length_add_append 1
      rw [htake, List.append_assoc]
      intro hq
      exact absurd ((parse_eq_ok.1 hq).symm.trans (hstuck t bad' rfl w)) (by simp)

/-- In a loop body that closes too early, the closing brace is the first wrong token. -/
theorem parse_error_first_wrong_brace :
    parse (["while", "(", "n", "<", "3", ")", "\x7b", "print", "n", "\x7d"].map utf8) =
        .error ⟨9, .symbol (utf8 ";"), some (utf8 "\x7d")⟩ ∧
      (∃ u p, parse (["while", "(", "n", "<", "3", ")", "\x7b", "print", "n"].map utf8 ++ u) =
        .ok p) ∧
      ∀ w p,
        parse (["while", "(", "n", "<", "3", ")", "\x7b", "print", "n", "\x7d"].map utf8 ++ w) ≠
          .ok p := by
  have h : parse (["while", "(", "n", "<", "3", ")", "\x7b", "print", "n", "\x7d"].map utf8) =
      .error ⟨9, .symbol (utf8 ";"), some (utf8 "\x7d")⟩ := rfl
  obtain ⟨-, -, -, hviable, hstuck⟩ := parse_error_first_wrong h
  exact ⟨h, hviable, hstuck (by decide)⟩

end Scriptlet
