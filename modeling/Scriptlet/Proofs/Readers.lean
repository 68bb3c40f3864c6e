import Scriptlet.Proofs.Grammar
import Scriptlet.Proofs.TokenClass
import Scriptlet.Syntax.Parser

/-!
# Scriptlet.Proofs.Readers — what each reader accepts, and readers without a counter

For every reader of the parser that does not nest there is one lemma `*_ok` that says which token
lists it accepts, what it makes of them and what it leaves.  The readers of statements and of block
bodies nest, with a counter that bounds the nesting.  `stmtReader` and `bodyReader` are the same
readers with a counter that is always enough; `stmtReader_cons` and `bodyReader_cons` open them
without showing it.
-/

namespace Scriptlet

namespace Syntax

open Reader

variable {α β : Type}

/-! ### Sequences -/

namespace Reader

theorem bind_ok {r : Reader α} {f : α → Reader β} {ts rest : List Token} {b : β} :
    (r >>= f) ts = .ok (b, rest) ↔
      ∃ a mid, r ts = .ok (a, mid) ∧ f a mid = .ok (b, rest) := by
  simp only [bind]
  rcases r ts with e | ⟨a, mid⟩
  · simp
  · simp [and_assoc]

theorem bind_error {r : Reader α} {f : α → Reader β} {ts : List Token} {m : Mismatch} :
    (r >>= f) ts = .error m ↔
      r ts = .error m ∨ ∃ a mid, r ts = .ok (a, mid) ∧ f a mid = .error m := by
  simp only [bind]
  rcases r ts with e | ⟨a, mid⟩
  · simp
  · simp [and_assoc]

theorem bind_of_ok {r : Reader α} {f : α → Reader β} {ts mid : List Token} {a : α}
    (h : r ts = .ok (a, mid)) : (r >>= f) ts = f a mid := by
  simp only [bind, h]

theorem bind_of_error {r : Reader α} {f : α → Reader β} {ts : List Token} {m : Mismatch}
    (h : r ts = .error m) : (r >>= f) ts = .error m :=
  bind_error.2 (.inl h)

theorem bind_congr {r r' : Reader α} {f f' : α → Reader β} {ts : List Token} (h : r ts = r' ts)
    (hf : ∀ a mid, r ts = .ok (a, mid) → f a mid = f' a mid) : (r >>= f) ts = (r' >>= f') ts := by
  cases hr : r ts with
  | error e => rw [bind_of_error hr, bind_of_error (h.symm.trans hr)]
  | ok p =>
    obtain ⟨a, mid⟩ := p
    rw [bind_of_ok hr, bind_of_ok (h.symm.trans hr)]
    exact hf a mid hr

theorem pure_ok {a b : α} {ts rest : List Token} :
    (pure a : Reader α) ts = .ok (b, rest) ↔ b = a ∧ ts = rest := by
  show Except.ok (a, ts) = Except.ok (b, rest) ↔ _
  simp [eq_comm]

theorem satisfy_ok {e : Expectation} {p : Token → Bool} {ts rest : List Token} {t : Token} :
    satisfy e p ts = .ok (t, rest) ↔ ts = t :: rest ∧ p t := by
  cases ts with
  | nil => simp [satisfy]
  | cons u us =>
    simp only [satisfy]
    split
    · next h =>
      constructor
      · intro heq
        cases heq
        exact ⟨rfl, h⟩
      · rintro ⟨heq, -⟩
        cases heq
        rfl
    · next h =>
      constructor
      · intro heq
        cases heq
      · rintro ⟨heq, ht⟩
        cases heq
        exact absurd ht h

theorem any_ok {e : Expectation} {ts rest : List Token} {t : Token} :
    any e ts = .ok (t, rest) ↔ ts = t :: rest := by
  simp [any, satisfy_ok]

theorem symbol_ok {s : Token} {ts rest : List Token} {x : Unit} :
    symbol s ts = .ok (x, rest) ↔ ts = s :: rest := by
  unfold symbol
  rw [bind_ok]
  constructor
  · rintro ⟨t, mid, h, hx⟩
    obtain ⟨rfl, ht⟩ := satisfy_ok.1 h
    obtain ⟨-, rfl⟩ := pure_ok.1 hx
    rw [eq_of_beq ht]
  · rintro rfl
    exact ⟨s, rest, satisfy_ok.2 ⟨rfl, beq_self_eq_true s⟩, rfl⟩

theorem symbol_cons (s : Token) (ts : List Token) : symbol s (s :: ts) = .ok ((), ts) :=
  symbol_ok.2 rfl

theorem identifier_ok {ts rest : List Token} {t : Token} :
    identifier ts = .ok (t, rest) ↔ ts = t :: rest ∧ t.isIdent :=
  satisfy_ok

theorem at?_bind {t : Token} {f : Bool → Reader β} {ts : List Token} :
    (at? t >>= f) ts = f (ts.head? == some t) ts := rfl

theorem at?_pos {t : Token} {r r' : Reader β} {ts : List Token} :
    (do if ← at? t then r else r') (t :: ts) = r (t :: ts) := by
  rw [at?_bind, if_pos (by simp)]

theorem at?_neg {t : Token} {r r' : Reader β} {ts : List Token} (h : ts.head? ≠ some t) :
    (do if ← at? t then r else r') ts = r' ts := by
  rw [at?_bind, if_neg (by simpa using h)]

end Reader

/-! ### Lists in parentheses -/

theorem commaList_sound {e : Expectation} {p : Token → Bool} {ts rest l : List Token}
    (h : commaList e p ts = .ok (l, rest)) :
    l ≠ [] ∧ (∀ t ∈ l, p t) ∧ ts = l.intersperse (utf8 ",") ++ utf8 ")" :: rest := by
  fun_induction commaList e p ts generalizing l with
  | case1 | case2 | case4 | case6 | case7 => cases h
  | case3 t hp ts l' rest' hl ih =>
    cases h
    obtain ⟨hne, hall, rfl⟩ := ih hl
    obtain ⟨u, l', rfl⟩ := List.exists_cons_of_ne_nil hne
    exact ⟨by simp, List.forall_mem_cons.2 ⟨hp, hall⟩, rfl⟩
  | case5 t hp ts =>
    cases h
    exact ⟨by simp, by simpa using hp, rfl⟩

theorem commaList_complete {e : Expectation} {p : Token → Bool} {rest l : List Token} (hne : l ≠ [])
    (hall : ∀ t ∈ l, p t) :
    commaList e p (l.intersperse (utf8 ",") ++ utf8 ")" :: rest) = .ok (l, rest) := by
  induction l with
  | nil => exact absurd rfl hne
  | cons t l ih =>
    have ht : p t = true := hall t (by simp)
    cases l with
    | nil => simp [commaList, ht, utf8_inj]
    | cons u l =>
      have hl := ih (by simp) fun v hv => hall v (List.mem_cons_of_mem t hv)
      simp only [List.intersperse, List.cons_append] at hl ⊢
      simp [commaList, ht, hl]

theorem parenthesised_ok {e : Expectation} {p : Token → Bool} (hp : p (utf8 ")") = false)
    {ts rest l : List Token} :
    parenthesised e p ts = .ok (l, rest) ↔ (∀ t ∈ l, p t) ∧ ts = parenTokens l ++ rest := by
  unfold parenthesised parenTokens
  simp only [List.cons_append, List.append_assoc, List.nil_append]
  constructor
  · intro h
    obtain ⟨_, ts, hs, h⟩ := bind_ok.1 h
    rw [symbol_ok.1 hs]
    rw [at?_bind] at h
    split at h
    · obtain ⟨_, mid, hs, h⟩ := bind_ok.1 h
      obtain ⟨rfl, rfl⟩ := pure_ok.1 h
      rw [symbol_ok.1 hs]
      exact ⟨by simp, rfl⟩
    · obtain ⟨-, hall, rfl⟩ := commaList_sound h
      exact ⟨hall, rfl⟩
  · rintro ⟨hall, rfl⟩
    rw [bind_of_ok (symbol_cons _ _), at?_bind]
    cases l with
    | nil => rfl
    | cons t l =>
      have ht : t ≠ utf8 ")" := by
        rintro rfl
        rw [hall _ (by simp)] at hp
        cases hp
      rw [if_neg (by cases l <;> simpa [List.intersperse] using ht)]
      exact commaList_complete (by simp) hall

theorem parameters_ok {ts rest l : List Token} :
    parameters ts = .ok (l, rest) ↔ (∀ t ∈ l, t.isIdent) ∧ ts = parenTokens l ++ rest :=
  parenthesised_ok (by decide)

theorem arguments_ok {ts rest l : List Token} :
    arguments ts = .ok (l, rest) ↔ (∀ t ∈ l, t.IsArgument) ∧ ts = parenTokens l ++ rest := by
  unfold arguments
  rw [parenthesised_ok (by decide)]
  simp [Token.IsArgument]

/-! ### Expressions and conditions -/

theorem triple_ok {e : Expectation} {isOp : Token → Bool} {ts rest : List Token}
    {l o r : Token} :
    triple e isOp ts = .ok ((l, o, r), rest) ↔ ts = l :: o :: r :: rest ∧ isOp o := by
  unfold triple
  simp only [bind_ok, any_ok, satisfy_ok, pure_ok, Prod.mk.injEq]
  constructor
  · rintro ⟨l, _, rfl, o, _, ⟨rfl, ho⟩, r, _, rfl, ⟨rfl, rfl, rfl⟩, rfl⟩
    exact ⟨rfl, ho⟩
  · rintro ⟨rfl, ho⟩
    exact ⟨l, _, rfl, o, _, ⟨rfl, ho⟩, r, _, rfl, ⟨rfl, rfl, rfl⟩, rfl⟩

theorem condition_ok {ts rest : List Token} {c : Condition} :
    condition ts = .ok (c, rest) ↔ c.WellFormed ∧ ts = c.tokens ++ rest := by
  unfold condition
  rw [bind_ok]
  constructor
  · rintro ⟨⟨l, o, r⟩, mid, h, hc⟩
    obtain ⟨rfl, rfl⟩ := pure_ok.1 hc
    obtain ⟨rfl, ho⟩ := triple_ok.1 h
    exact ⟨CompareOp.isSome_ofToken?.1 ho, rfl⟩
  · rintro ⟨ho, rfl⟩
    exact ⟨(c.left, c.op, c.right), rest, triple_ok.2 ⟨rfl, CompareOp.isSome_ofToken?.2 ho⟩, rfl⟩

theorem guard_ok {ts rest : List Token} {c : Condition} :
    guard ts = .ok (c, rest) ↔ c.WellFormed ∧ ts = c.guardTokens ++ rest := by
  unfold guard
  simp only [bind_ok, symbol_ok, condition_ok, pure_ok]
  constructor
  · rintro ⟨_, _, rfl, c, _, ⟨hc, rfl⟩, _, _, rfl, rfl, rfl⟩
    exact ⟨hc, by simp [Condition.guardTokens]⟩
  · rintro ⟨hc, rfl⟩
    exact ⟨(), _, rfl, c, utf8 ")" :: rest, ⟨hc, by simp [Condition.tokens]⟩,
      (), rest, rfl, rfl, rfl⟩

theorem binaryExpression_ok {ts rest : List Token} {e : Expr} :
    binaryExpression ts = .ok (e, rest) ↔
      ∃ l o r, (ArithOp.ofToken? o).isSome ∧ e = .binary l o r ∧ ts = l :: o :: r :: rest := by
  unfold binaryExpression
  rw [bind_ok]
  constructor
  · rintro ⟨⟨l, o, r⟩, mid, h, he⟩
    obtain ⟨rfl, rfl⟩ := pure_ok.1 he
    obtain ⟨rfl, ho⟩ := triple_ok.1 h
    exact ⟨l, o, r, ho, rfl, rfl⟩
  · rintro ⟨l, o, r, ho, rfl, rfl⟩
    exact ⟨(l, o, r), rest, triple_ok.2 ⟨rfl, ho⟩, rfl⟩

theorem callExpression_ok {name : Token} {ts rest : List Token} {e : Expr} :
    callExpression name ts = .ok (e, rest) ↔
      ∃ args, (∀ a ∈ args, a.IsArgument) ∧ e = .call name args ∧ ts = parenTokens args ++ rest := by
  unfold callExpression
  simp only [bind_ok, arguments_ok, pure_ok]
  constructor
  · rintro ⟨args, _, ⟨ha, rfl⟩, rfl, rfl⟩
    exact ⟨args, ha, rfl, rfl⟩
  · rintro ⟨args, ha, rfl, rfl⟩
    exact ⟨args, rest, ⟨ha, rfl⟩, rfl, rfl⟩

theorem expression_sound {ts rest : List Token} {e : Expr} (h : expression ts = .ok (e, rest)) :
    e.WellFormed ∧ ∃ pre, e.SpelledBy pre ∧ ts = pre ++ rest := by
  cases ts with
  | nil => cases h
  | cons t ts =>
    simp only [expression] at h
    split at h
    · next inner hs =>
      cases h
      obtain ⟨rfl, hinner⟩ := Token.stringLiteral?_eq_some.1 hs
      exact ⟨hinner, _, .str, rfl⟩
    · next hs =>
      split at h
      · next hi =>
        split at h
        · next n hn =>
          cases h
          obtain ⟨hi, hrange, rfl⟩ := Integer.unsigned?_eq_some.1 hn
          exact ⟨⟨Int.natCast_nonneg _, hrange⟩, _, .int hi, rfl⟩
        · cases h
      · next hi =>
        split at h
        · next hc =>
          obtain ⟨args, ha, rfl, rfl⟩ := callExpression_ok.1 h
          exact ⟨⟨hc.1, ha⟩, _, .call, rfl⟩
        · obtain ⟨l, o, r, ho, rfl, hts⟩ := binaryExpression_ok.1 h
          obtain ⟨rfl, rfl⟩ := List.cons.inj hts
          have hs' : ¬ Token.isStringLiteral t := by simp [Token.isStringLiteral, hs]
          exact ⟨⟨hs', hi, ArithOp.isSome_ofToken?.1 ho⟩, _, .binary, rfl⟩

theorem expression_complete {pre rest : List Token} {e : Expr} (hw : e.WellFormed)
    (hs : e.SpelledBy pre) : expression (pre ++ rest) = .ok (e, rest) := by
  cases hs with
  | @int t hi =>
    have hn : Integer.unsigned? t = some (Integer.ofDigits t : Int) :=
      Integer.unsigned?_eq_some.2 ⟨hi, hw.2, rfl⟩
    simp [expression, Token.stringLiteral?_of_isIntLiteral hi, hi, hn]
  | @str inner =>
    have hs := Token.stringLiteral?_eq_some.2 ⟨rfl, hw⟩
    simp only [List.cons_append, List.nil_append] at hs ⊢
    simp [expression, hs]
  | @binary l o r =>
    obtain ⟨hl, hi, ho⟩ := hw
    have hs : Token.stringLiteral? l = none := by simpa [Token.isStringLiteral] using hl
    have hcall : ¬ (l.isIdent ∧ (o :: r :: rest).head? = some (utf8 "(")) := by
      rintro ⟨-, h⟩
      obtain rfl : o = utf8 "(" := Option.some.inj h
      obtain ⟨o, ho⟩ := ho
      cases o <;> simp [ArithOp.symbol, utf8_inj] at ho
    simp only [List.cons_append, List.nil_append, expression, hs, hi, hcall, if_false]
    exact binaryExpression_ok.2 ⟨l, o, r, ArithOp.isSome_ofToken?.2 ho, rfl, rfl⟩
  | @call name args =>
    obtain ⟨hname, ha⟩ := hw
    have hhead : (parenTokens args ++ rest).head? = some (utf8 "(") := rfl
    simp only [List.cons_append, expression, Token.stringLiteral?_of_isIdent hname,
      Token.isIntLiteral_of_isIdent hname, hname, hhead, and_self, if_true, Bool.false_eq_true,
      if_false]
    exact callExpression_ok.2 ⟨args, ha, rfl, rfl⟩

/-! ### Readers that take tokens from the front -/

/-- `r` never leaves more tokens than it was given. -/
def Shrinks (r : Reader α) : Prop :=
  ∀ ts a rest, r ts = .ok (a, rest) → rest.length ≤ ts.length

theorem Shrinks.bind {r : Reader α} {f : α → Reader β} (hr : Shrinks r) (hf : ∀ a, Shrinks (f a)) :
    Shrinks (r >>= f) := by
  intro ts b rest h
  obtain ⟨a, mid, h₁, h₂⟩ := bind_ok.1 h
  exact Nat.le_trans (hf a mid b rest h₂) (hr ts a mid h₁)

theorem shrinks_pure (a : α) : Shrinks (pure a : Reader α) := by
  intro ts b rest h
  obtain ⟨-, rfl⟩ := pure_ok.1 h
  exact Nat.le_refl _

theorem shrinks_satisfy (e : Expectation) (p : Token → Bool) : Shrinks (satisfy e p) := by
  intro ts t rest h
  obtain ⟨rfl, -⟩ := satisfy_ok.1 h
  simp

theorem shrinks_symbol (s : Token) : Shrinks (symbol s) :=
  (shrinks_satisfy _ _).bind fun _ => shrinks_pure _

theorem shrinks_of_append {r : Reader α}
    (h : ∀ ts a rest, r ts = .ok (a, rest) → ∃ pre, ts = pre ++ rest) : Shrinks r := by
  intro ts a rest hr
  obtain ⟨pre, rfl⟩ := h ts a rest hr
  simp

theorem shrinks_parameters : Shrinks parameters :=
  shrinks_of_append fun _ _ _ h => ⟨_, (parameters_ok.1 h).2⟩

theorem shrinks_arguments : Shrinks arguments :=
  shrinks_of_append fun _ _ _ h => ⟨_, (arguments_ok.1 h).2⟩

theorem shrinks_condition : Shrinks condition :=
  shrinks_of_append fun _ _ _ h => ⟨_, (condition_ok.1 h).2⟩

theorem shrinks_expression : Shrinks expression := by
  refine shrinks_of_append fun ts e rest h => ?_
  obtain ⟨-, pre, -, hts⟩ := expression_sound h
  exact ⟨pre, hts⟩

theorem shrinks_binding (make : Token → Expr → Stmt) : Shrinks (binding make) :=
  (shrinks_satisfy _ _).bind fun _ => (shrinks_symbol _).bind fun _ => shrinks_expression.bind
    fun _ => (shrinks_symbol _).bind fun _ => shrinks_pure _

theorem shrinks_guard : Shrinks guard :=
  (shrinks_symbol _).bind fun _ => shrinks_condition.bind fun _ => (shrinks_symbol _).bind
    fun _ => shrinks_pure _

theorem shrinks_callStatement (name : Token) : Shrinks (callStatement name) :=
  shrinks_arguments.bind fun _ => (shrinks_symbol _).bind fun _ => shrinks_pure _

section Nested

variable {stmt stmt' : Reader Stmt} {body body' : Reader (List Stmt)}

theorem Shrinks.block (hb : Shrinks body) : Shrinks (block body) :=
  (shrinks_symbol _).bind fun _ => hb

theorem shrinks_keywordStatement (hs : Shrinks stmt) (hb : Shrinks body) (k : Keyword) :
    Shrinks (keywordStatement stmt body k) := by
  cases k with
  | int => exact shrinks_binding _
  | print =>
    exact (shrinks_satisfy _ _).bind fun _ => (shrinks_symbol _).bind fun _ => shrinks_pure _
  | read =>
    exact (shrinks_satisfy _ _).bind fun _ => (shrinks_symbol _).bind fun _ => shrinks_pure _
  | «if» =>
    refine shrinks_guard.bind fun _ => hb.block.bind fun _ => ?_
    intro ts s rest h
    rw [at?_bind] at h
    split at h
    · exact ((shrinks_symbol _).bind fun _ => hb.block.bind fun _ => shrinks_pure _) ts s rest h
    · exact shrinks_pure _ ts s rest h
  | «while» => exact shrinks_guard.bind fun _ => hb.block.bind fun _ => shrinks_pure _
  | «for» =>
    exact (shrinks_symbol _).bind fun _ => hs.bind fun _ => shrinks_condition.bind fun _ =>
      (shrinks_symbol _).bind fun _ => hs.bind fun _ => (shrinks_symbol _).bind fun _ =>
      hb.block.bind fun _ => shrinks_pure _
  | «fun» =>
    exact (shrinks_satisfy _ _).bind fun _ => shrinks_parameters.bind fun _ =>
      hb.block.bind fun _ => shrinks_pure _
  | «return» =>
    exact shrinks_expression.bind fun _ => (shrinks_symbol _).bind fun _ => shrinks_pure _

end Nested

/-! ### The counter does not matter -/

/-- The two readers do the same on lists of at most `n` tokens. -/
def AgreeUpTo (n : Nat) (r r' : Reader α) : Prop := ∀ ts, ts.length ≤ n → r ts = r' ts

theorem AgreeUpTo.bind {n : Nat} {r r' : Reader α} {f f' : α → Reader β} (hr : AgreeUpTo n r r')
    (hs : Shrinks r) (hf : ∀ a, AgreeUpTo n (f a) (f' a)) : AgreeUpTo n (r >>= f) (r' >>= f') := by
  intro ts hts
  exact bind_congr (hr ts hts) fun a mid h => hf a mid (Nat.le_trans (hs ts a mid h) hts)

/-- The opening brace is not counted: the readers of the body may differ on longer lists. -/
theorem AgreeUpTo.block {n : Nat} {body body' : Reader (List Stmt)}
    (hb : ∀ ts, ts.length < n → body ts = body' ts) :
    AgreeUpTo n (block body) (block body') := by
  intro ts hts
  refine bind_congr rfl fun _ mid h => hb mid ?_
  rw [symbol_ok.1 h] at hts
  exact hts

theorem AgreeUpTo.keywordStatement {n : Nat} {stmt stmt' : Reader Stmt}
    {body body' : Reader (List Stmt)} (hs : AgreeUpTo n stmt stmt') (hss : Shrinks stmt)
    (hb : ∀ ts, ts.length < n → body ts = body' ts) (hbs : Shrinks body) (k : Keyword) :
    AgreeUpTo n (keywordStatement stmt body k) (keywordStatement stmt' body' k) := by
  have refl : ∀ {γ : Type} (r : Reader γ), AgreeUpTo n r r := fun _ _ _ => rfl
  cases k with
  | int | print | read | «return» => exact refl _
  | «if» =>
    refine (refl _).bind shrinks_guard fun _ => (AgreeUpTo.block hb).bind hbs.block fun _ => ?_
    intro ts hts
    rw [at?_bind, at?_bind]
    split
    · exact ((refl _).bind (shrinks_symbol _) fun _ => (AgreeUpTo.block hb).bind hbs.block
        fun _ => refl _) ts hts
    · rfl
  | «while» =>
    exact (refl _).bind shrinks_guard fun _ => (AgreeUpTo.block hb).bind hbs.block fun _ => refl _
  | «for» =>
    exact (refl _).bind (shrinks_symbol _) fun _ => hs.bind hss fun _ =>
      (refl _).bind shrinks_condition fun _ => (refl _).bind (shrinks_symbol _) fun _ =>
      hs.bind hss fun _ => (refl _).bind (shrinks_symbol _) fun _ =>
      (AgreeUpTo.block hb).bind hbs.block fun _ => refl _
  | «fun» =>
    exact (refl _).bind (shrinks_satisfy _ _) fun _ => (refl _).bind shrinks_parameters fun _ =>
      (AgreeUpTo.block hb).bind hbs.block fun _ => refl _

/-- What a reader of statements does with a non-empty list, given readers of what is inside. -/
def statementStep (stmt : Reader Stmt) (body : Reader (List Stmt)) (t : Token) (rest : List Token) :
    Except Mismatch (Stmt × List Token) :=
  match Keyword.ofToken? t with
  | some k => keywordStatement stmt body k rest
  | none =>
    if Token.isIdent t then
      if rest.head? = some (utf8 "=") then binding .assign (t :: rest)
      else if rest.head? = some (utf8 "(") then callStatement t rest
      else .error ⟨.assignmentOrCall, rest⟩
    else .error ⟨.statement, t :: rest⟩

theorem statement_succ_cons (n : Nat) (t : Token) (rest : List Token) :
    statement (n + 1) (t :: rest) = statementStep (statement n) (blockRest n) t rest := rfl

/-- A non-empty list of statements up to a closing brace. -/
def consReader (stmt : Reader Stmt) (body : Reader (List Stmt)) : Reader (List Stmt) := do
  let s ← stmt
  let ss ← body
  return s :: ss

theorem blockRest_succ_cons (n : Nat) (t : Token) (rest : List Token) :
    blockRest (n + 1) (t :: rest) =
      if t = utf8 "\x7d" then .ok ([], rest)
      else consReader (statement n) (blockRest n) (t :: rest) := by
  show (if t = utf8 "\x7d" then Except.ok ([], rest) else _) = _
  split
  · rfl
  · unfold consReader
    cases h : statement n (t :: rest) with
    | error e => rw [bind_of_error h]
    | ok p =>
      obtain ⟨s, mid⟩ := p
      rw [bind_of_ok h]
      dsimp only
      cases h' : blockRest n mid with
      | error e => rw [bind_of_error h']
      | ok q =>
        rw [bind_of_ok h']
        rfl

theorem length_of_statementStep {stmt : Reader Stmt} {body : Reader (List Stmt)} (hs : Shrinks stmt)
    (hb : Shrinks body) {t : Token} {ts rest : List Token} {s : Stmt}
    (h : statementStep stmt body t ts = .ok (s, rest)) : rest.length < (t :: ts).length := by
  have hlt : ∀ {r : Reader Stmt}, Shrinks r → r ts = .ok (s, rest) →
      rest.length < (t :: ts).length :=
    fun hr h => Nat.lt_succ_of_le (hr ts s rest h)
  unfold statementStep at h
  split at h
  · exact hlt (shrinks_keywordStatement hs hb _) h
  · split at h
    · split at h
      · obtain ⟨name, mid, h₁, h₂⟩ := bind_ok.1 h
        obtain ⟨hmid, -⟩ := identifier_ok.1 h₁
        obtain ⟨rfl, rfl⟩ := List.cons.inj hmid
        exact hlt ((shrinks_symbol _).bind fun _ => shrinks_expression.bind fun _ =>
          (shrinks_symbol _).bind fun _ => shrinks_pure _) h₂
      · split at h
        · exact hlt (shrinks_callStatement t) h
        · cases h
    · cases h

theorem shrinks_statement_blockRest (n : Nat) : Shrinks (statement n) ∧ Shrinks (blockRest n) := by
  induction n with
  | zero =>
    constructor
    · intro ts s rest h
      cases h
    · intro ts ss rest h
      cases h
  | succ n ih =>
    constructor
    · intro ts s rest h
      cases ts with
      | nil => cases h
      | cons t ts => exact Nat.le_of_lt (length_of_statementStep ih.1 ih.2 h)
    · intro ts ss rest h
      cases ts with
      | nil => cases h
      | cons t ts =>
        rw [blockRest_succ_cons] at h
        split at h
        · cases h
          simp
        · exact (ih.1.bind fun _ => ih.2.bind fun _ => shrinks_pure _) _ _ _ h

theorem length_of_statement {n : Nat} {ts rest : List Token} {s : Stmt}
    (h : statement n ts = .ok (s, rest)) : rest.length < ts.length := by
  cases n with
  | zero => cases h
  | succ n =>
    cases ts with
    | nil => cases h
    | cons t ts =>
      obtain ⟨hss, hbs⟩ := shrinks_statement_blockRest n
      exact length_of_statementStep hss hbs h

/-- A counter as large as the number of tokens is enough, and one more inside a block. -/
theorem statement_blockRest_stable (n m : Nat) :
    (∀ ts, ts.length ≤ n → ts.length ≤ m → statement n ts = statement m ts) ∧
      (∀ ts, ts.length < n → ts.length < m → blockRest n ts = blockRest m ts) := by
  induction n generalizing m with
  | zero =>
    refine ⟨fun ts hn _ => ?_, fun ts hn _ => absurd hn (Nat.not_lt_zero _)⟩
    obtain rfl := List.length_eq_zero_iff.1 (Nat.le_zero.1 hn)
    cases m <;> rfl
  | succ n ih =>
    cases m with
    | zero =>
      refine ⟨fun ts _ hm => ?_, fun ts _ hm => absurd hm (Nat.not_lt_zero _)⟩
      obtain rfl := List.length_eq_zero_iff.1 (Nat.le_zero.1 hm)
      rfl
    | succ m =>
      obtain ⟨ihs, ihb⟩ := ih m
      obtain ⟨hss, hbs⟩ := shrinks_statement_blockRest n
      constructor
      · intro ts hn hm
        cases ts with
        | nil => rfl
        | cons t ts =>
          simp only [List.length_cons, Nat.add_le_add_iff_right] at hn hm
          have hk : ∀ k, keywordStatement (statement n) (blockRest n) k ts =
              keywordStatement (statement m) (blockRest m) k ts := fun k =>
            AgreeUpTo.keywordStatement
              (fun us hus => ihs us (Nat.le_trans hus hn) (Nat.le_trans hus hm)) hss
              (fun us hus => ihb us (Nat.lt_of_lt_of_le hus hn) (Nat.lt_of_lt_of_le hus hm)) hbs k
              ts (Nat.le_refl _)
          rw [statement_succ_cons, statement_succ_cons]
          unfold statementStep
          simp only [hk]
      · intro ts hn hm
        cases ts with
        | nil => rfl
        | cons t ts =>
          simp only [List.length_cons, Nat.add_lt_add_iff_right] at hn hm
          rw [blockRest_succ_cons, blockRest_succ_cons]
          split
          · rfl
          · refine bind_congr (ihs (t :: ts) hn hm) fun s mid h => ?_
            have hmid : mid.length < ts.length + 1 := length_of_statement h
            exact bind_congr (ihb mid (by omega) (by omega)) fun _ _ _ => rfl

/-- The reader of statements. -/
def stmtReader : Reader Stmt := fun ts => statement ts.length ts

/-- The reader of a block from its first statement or its closing brace on. -/
def bodyReader : Reader (List Stmt) := fun ts => blockRest (ts.length + 1) ts

/-- The statements up to the end of the input. -/
def programReader (ts : List Token) : Except Mismatch Program := statements ts.length ts

theorem statement_eq {n : Nat} {ts : List Token} (h : ts.length ≤ n) :
    statement n ts = stmtReader ts :=
  (statement_blockRest_stable n ts.length).1 ts h (Nat.le_refl _)

theorem blockRest_eq {n : Nat} {ts : List Token} (h : ts.length < n) :
    blockRest n ts = bodyReader ts :=
  (statement_blockRest_stable n (ts.length + 1)).2 ts h (Nat.lt_succ_self _)

theorem stmtReader_nil : stmtReader [] = .error ⟨.statement, []⟩ := rfl

theorem stmtReader_cons (t : Token) (ts : List Token) :
    stmtReader (t :: ts) = statementStep stmtReader bodyReader t ts := by
  obtain ⟨hss, hbs⟩ := shrinks_statement_blockRest ts.length
  have hk : ∀ k, keywordStatement (statement ts.length) (blockRest ts.length) k ts =
      keywordStatement stmtReader bodyReader k ts := fun k =>
    AgreeUpTo.keywordStatement (fun us hus => statement_eq hus) hss
      (fun us hus => blockRest_eq hus) hbs k ts (Nat.le_refl _)
  show statementStep (statement ts.length) (blockRest ts.length) t ts = _
  unfold statementStep
  simp only [hk]

theorem bodyReader_nil : bodyReader [] = .error ⟨.symbol (utf8 "\x7d"), []⟩ := rfl

theorem bodyReader_cons (t : Token) (ts : List Token) :
    bodyReader (t :: ts) =
      if t = utf8 "\x7d" then .ok ([], ts) else consReader stmtReader bodyReader (t :: ts) := by
  show blockRest (ts.length + 1 + 1) (t :: ts) = _
  rw [blockRest_succ_cons]
  split
  · rfl
  · refine bind_congr rfl fun s mid h => ?_
    have hmid : mid.length < ts.length + 1 := length_of_statement h
    exact bind_congr (blockRest_eq hmid) fun _ _ _ => rfl

theorem length_of_stmtReader {ts rest : List Token} {s : Stmt} (h : stmtReader ts = .ok (s, rest)) :
    rest.length < ts.length :=
  length_of_statement h

theorem statements_stable (n m : Nat) (ts : List Token) (hn : ts.length ≤ n) (hm : ts.length ≤ m) :
    statements n ts = statements m ts := by
  induction n generalizing m ts with
  | zero =>
    obtain rfl := List.length_eq_zero_iff.1 (Nat.le_zero.1 hn)
    cases m <;> rfl
  | succ n ih =>
    cases ts with
    | nil => cases m <;> rfl
    | cons t ts =>
      cases m with
      | zero => exact absurd hm (Nat.not_succ_le_zero _)
      | succ m =>
        simp only [statements]
        rw [statement_eq hn, statement_eq hm]
        cases h : stmtReader (t :: ts) with
        | error e => rfl
        | ok p =>
          obtain ⟨s, rest⟩ := p
          have hlt : rest.length < ts.length + 1 := length_of_stmtReader h
          simp only [List.length_cons] at hn hm
          dsimp only
          rw [ih m rest (by omega) (by omega)]

theorem programReader_of_error {ts : List Token} {m : Mismatch} (hne : ts ≠ [])
    (h : stmtReader ts = .error m) : programReader ts = .error m := by
  cases ts with
  | nil => exact absurd rfl hne
  | cons t ts =>
    have hs : statement (ts.length + 1) (t :: ts) = .error m := h
    simp only [programReader, List.length_cons, statements, hs]

theorem programReader_of_ok {ts rest : List Token} {s : Stmt} (h : stmtReader ts = .ok (s, rest)) :
    programReader ts = (programReader rest).map (s :: ·) := by
  cases ts with
  | nil => cases h
  | cons t ts =>
    have hlt : rest.length < ts.length + 1 := length_of_stmtReader h
    have hs : statement (ts.length + 1) (t :: ts) = .ok (s, rest) := h
    simp only [programReader, List.length_cons, statements, hs]
    rw [statements_stable ts.length rest.length rest (by omega) (Nat.le_refl _)]
    cases statements rest.length rest <;> rfl

end Syntax

theorem parse_eq_ok {ts : List Token} {p : Program} :
    parse ts = .ok p ↔ Syntax.programReader ts = .ok p := by
  unfold parse Syntax.programReader
  cases Syntax.statements ts.length ts with
  | error e => simp
  | ok q => simp

theorem parse_eq_error {ts : List Token} {e : SyntaxError} :
    parse ts = .error e ↔ ∃ m, Syntax.programReader ts = .error m ∧
      e = ⟨ts.length - m.rest.length, m.expected, m.rest.head?⟩ := by
  unfold parse Syntax.programReader
  cases Syntax.statements ts.length ts with
  | error m => simp [eq_comm]
  | ok q => simp

end Scriptlet
