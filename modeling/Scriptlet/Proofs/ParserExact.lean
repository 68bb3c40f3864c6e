import Scriptlet.Proofs.Readers

/-!
# Scriptlet.Proofs.ParserExact — the parser accepts exactly the spellings of well-formed programs

Soundness follows the readers: what a reader makes of its tokens is well formed and spelled by the
tokens it took.  Completeness follows the derivation of a spelling, with arbitrary tokens after it.
A statement leaves its reader no choice where it ends, except that a conditional takes an `else`
that follows it; `Stmt.MayFollow` carries this exception through both directions.
-/

namespace Scriptlet

namespace Syntax

open Reader

/-! ### Soundness -/

/-- What a reader of statements makes of its tokens is spelled by those it took. -/
def StmtSound (r : Reader Stmt) : Prop :=
  ∀ ts s rest, r ts = .ok (s, rest) →
    s.WellFormed ∧ s.MayFollow rest ∧ ∃ pre, s.SpelledBy pre ∧ ts = pre ++ rest

/-- What a reader of bodies makes of its tokens is spelled by those up to the closing brace. -/
def BodySound (r : Reader (List Stmt)) : Prop :=
  ∀ ts ss rest, r ts = .ok (ss, rest) →
    Program.WellFormed ss ∧ ∃ pre, Program.SpelledBy ss pre ∧ ts = pre ++ utf8 "\x7d" :: rest

section Soundness

variable {stmt : Reader Stmt} {body : Reader (List Stmt)} {ts rest : List Token} {s : Stmt}

theorem block_sound (hb : BodySound body) {ss : List Stmt} (h : block body ts = .ok (ss, rest)) :
    Program.WellFormed ss ∧ ∃ pre, Program.SpelledBy ss pre ∧ ts = braceTokens pre ++ rest := by
  obtain ⟨_, mid, h₁, h₂⟩ := bind_ok.1 h
  obtain ⟨hw, pre, hpre, rfl⟩ := hb mid ss rest h₂
  exact ⟨hw, pre, hpre, by rw [symbol_ok.1 h₁]; simp [braceTokens]⟩

theorem binding_sound {make : Token → Expr → Stmt} (h : binding make ts = .ok (s, rest)) :
    ∃ name value v, s = make name value ∧ name.isIdent ∧ value.WellFormed ∧ value.SpelledBy v ∧
      ts = name :: utf8 "=" :: (v ++ utf8 ";" :: rest) := by
  obtain ⟨name, m₁, h₁, h⟩ := bind_ok.1 h
  obtain ⟨_, m₂, h₂, h⟩ := bind_ok.1 h
  obtain ⟨value, m₃, h₃, h⟩ := bind_ok.1 h
  obtain ⟨_, m₄, h₄, h⟩ := bind_ok.1 h
  obtain ⟨rfl, rfl⟩ := pure_ok.1 h
  obtain ⟨rfl, hname⟩ := identifier_ok.1 h₁
  obtain ⟨hvalue, v, hv, rfl⟩ := expression_sound h₃
  obtain rfl := symbol_ok.1 h₄
  exact ⟨name, value, v, rfl, hname, hvalue, hv, by rw [symbol_ok.1 h₂]⟩

theorem keywordStatement_sound (hs : StmtSound stmt) (hb : BodySound body) {k : Keyword}
    (h : keywordStatement stmt body k ts = .ok (s, rest)) :
    s.WellFormed ∧ s.MayFollow rest ∧
      ∃ pre, s.SpelledBy (utf8 k.word :: pre) ∧ ts = pre ++ rest := by
  cases k with
  | int =>
    obtain ⟨name, value, v, rfl, hname, hvalue, hv, rfl⟩ := binding_sound h
    exact ⟨⟨hname, hvalue⟩, False.elim, _, .declare hv, by simp⟩
  | print =>
    obtain ⟨operand, m₁, h₁, h⟩ := bind_ok.1 h
    obtain ⟨_, m₂, h₂, h⟩ := bind_ok.1 h
    obtain ⟨rfl, rfl⟩ := pure_ok.1 h
    obtain rfl := any_ok.1 h₁
    obtain rfl := symbol_ok.1 h₂
    exact ⟨trivial, False.elim, _, .print, rfl⟩
  | read =>
    obtain ⟨name, m₁, h₁, h⟩ := bind_ok.1 h
    obtain ⟨_, m₂, h₂, h⟩ := bind_ok.1 h
    obtain ⟨rfl, rfl⟩ := pure_ok.1 h
    obtain ⟨rfl, hname⟩ := identifier_ok.1 h₁
    obtain rfl := symbol_ok.1 h₂
    exact ⟨hname, False.elim, _, .read, rfl⟩
  | «if» =>
    obtain ⟨cond, m₁, h₁, h⟩ := bind_ok.1 h
    obtain ⟨ss, m₂, h₂, htail⟩ := bind_ok.1 h
    obtain ⟨hcond, rfl⟩ := guard_ok.1 h₁
    obtain ⟨hss, b, hbody, rfl⟩ := block_sound hb h₂
    rw [at?_bind] at htail
    split at htail
    · obtain ⟨_, m₃, h₃, htail⟩ := bind_ok.1 htail
      obtain ⟨alternative, m₄, h₄, htail⟩ := bind_ok.1 htail
      obtain ⟨rfl, rfl⟩ := pure_ok.1 htail
      obtain rfl := symbol_ok.1 h₃
      obtain ⟨halt, a, ha, rfl⟩ := block_sound hb h₄
      exact ⟨⟨hcond, hss, halt⟩, False.elim, _, .iteElse hbody ha, by simp⟩
    · next helse =>
      obtain ⟨rfl, rfl⟩ := pure_ok.1 htail
      exact ⟨⟨hcond, hss⟩, fun _ => by simpa using helse, _, .ite hbody, by simp⟩
  | «while» =>
    obtain ⟨cond, m₁, h₁, h⟩ := bind_ok.1 h
    obtain ⟨ss, m₂, h₂, h⟩ := bind_ok.1 h
    obtain ⟨rfl, rfl⟩ := pure_ok.1 h
    obtain ⟨hcond, rfl⟩ := guard_ok.1 h₁
    obtain ⟨hss, b, hbody, rfl⟩ := block_sound hb h₂
    exact ⟨⟨hcond, hss⟩, False.elim, _, .while hbody, by simp⟩
  | «for» =>
    obtain ⟨_, m₁, h₁, h⟩ := bind_ok.1 h
    obtain ⟨init, m₂, h₂, h⟩ := bind_ok.1 h
    obtain ⟨cond, m₃, h₃, h⟩ := bind_ok.1 h
    obtain ⟨_, m₄, h₄, h⟩ := bind_ok.1 h
    obtain ⟨step, m₅, h₅, h⟩ := bind_ok.1 h
    obtain ⟨_, m₆, h₆, h⟩ := bind_ok.1 h
    obtain ⟨ss, m₇, h₇, h⟩ := bind_ok.1 h
    obtain ⟨rfl, rfl⟩ := pure_ok.1 h
    obtain ⟨hss, b, hbody, rfl⟩ := block_sound hb h₇
    obtain rfl := symbol_ok.1 h₆
    obtain ⟨hstep, -, j, hj, rfl⟩ := hs _ _ _ h₅
    obtain rfl := symbol_ok.1 h₄
    obtain ⟨hcond, rfl⟩ := condition_ok.1 h₃
    obtain ⟨hinit, hfollow, i, hi, rfl⟩ := hs _ _ _ h₂
    obtain rfl := symbol_ok.1 h₁
    exact ⟨⟨hinit, hcond, hstep, hss⟩, False.elim, _, .for hi hfollow hj hbody, by simp⟩
  | «fun» =>
    obtain ⟨name, m₁, h₁, h⟩ := bind_ok.1 h
    obtain ⟨params, m₂, h₂, h⟩ := bind_ok.1 h
    obtain ⟨ss, m₃, h₃, h⟩ := bind_ok.1 h
    obtain ⟨rfl, rfl⟩ := pure_ok.1 h
    obtain ⟨hss, b, hbody, rfl⟩ := block_sound hb h₃
    obtain ⟨hparams, rfl⟩ := parameters_ok.1 h₂
    obtain ⟨rfl, hname⟩ := identifier_ok.1 h₁
    exact ⟨⟨hname, hparams, hss⟩, False.elim, _, .fun hbody, by simp⟩
  | «return» =>
    obtain ⟨value, m₁, h₁, h⟩ := bind_ok.1 h
    obtain ⟨_, m₂, h₂, h⟩ := bind_ok.1 h
    obtain ⟨rfl, rfl⟩ := pure_ok.1 h
    obtain rfl := symbol_ok.1 h₂
    obtain ⟨hvalue, v, hv, rfl⟩ := expression_sound h₁
    exact ⟨hvalue, False.elim, _, .return hv, by simp⟩

theorem statementStep_sound (hs : StmtSound stmt) (hb : BodySound body) {t : Token}
    (h : statementStep stmt body t ts = .ok (s, rest)) :
    s.WellFormed ∧ s.MayFollow rest ∧ ∃ pre, s.SpelledBy pre ∧ t :: ts = pre ++ rest := by
  unfold statementStep at h
  split at h
  · next k hk =>
    obtain rfl := Keyword.ofToken?_eq_some.1 hk
    obtain ⟨hw, hf, pre, hpre, rfl⟩ := keywordStatement_sound hs hb h
    exact ⟨hw, hf, _, hpre, rfl⟩
  · next hk =>
    rw [Keyword.ofToken?_eq_none] at hk
    split at h
    · next hident =>
      split at h
      · obtain ⟨name, value, v, rfl, -, hvalue, hv, hts⟩ := binding_sound h
        obtain ⟨rfl, rfl⟩ := List.cons.inj hts
        exact ⟨⟨⟨hident, hk⟩, hvalue⟩, False.elim, _, .assign hv, by simp⟩
      · split at h
        · obtain ⟨args, m₁, h₁, h⟩ := bind_ok.1 h
          obtain ⟨_, m₂, h₂, h⟩ := bind_ok.1 h
          obtain ⟨rfl, rfl⟩ := pure_ok.1 h
          obtain rfl := symbol_ok.1 h₂
          obtain ⟨hargs, rfl⟩ := arguments_ok.1 h₁
          exact ⟨⟨⟨hident, hk⟩, hargs⟩, False.elim, _, .call, by simp⟩
        · cases h
    · cases h

theorem consReader_sound (hs : StmtSound stmt) (hb : BodySound body) {ss : List Stmt}
    (h : consReader stmt body ts = .ok (ss, rest)) :
    Program.WellFormed ss ∧ ∃ pre, Program.SpelledBy ss pre ∧ ts = pre ++ utf8 "\x7d" :: rest := by
  obtain ⟨s, m₁, h₁, h⟩ := bind_ok.1 h
  obtain ⟨ss, m₂, h₂, h⟩ := bind_ok.1 h
  obtain ⟨rfl, rfl⟩ := pure_ok.1 h
  obtain ⟨hws, hf, t, ht, rfl⟩ := hs _ _ _ h₁
  obtain ⟨hwss, pre, hpre, rfl⟩ := hb _ _ _ h₂
  have hf' : s.MayFollow pre := by
    intro hlacks
    have h := hf hlacks
    cases pre with
    | nil => simp
    | cons u us => simpa using h
  exact ⟨⟨hws, hwss⟩, _, .cons ht hf' hpre, by simp⟩

end Soundness

theorem statement_blockRest_sound (n : Nat) :
    StmtSound (statement n) ∧ BodySound (blockRest n) := by
  induction n with
  | zero =>
    constructor
    · intro ts s rest h
      cases h
    · intro ts ss rest h
      cases h
  | succ n ih =>
    constructor
    · intro ts s rest h
      cases ts with
      | nil => cases h
      | cons t ts => exact statementStep_sound ih.1 ih.2 h
    · intro ts ss rest h
      cases ts with
      | nil => cases h
      | cons t ts =>
        rw [blockRest_succ_cons] at h
        split at h
        · next ht =>
          cases h
          exact ⟨trivial, [], .nil, by rw [ht]; rfl⟩
        · exact consReader_sound ih.1 ih.2 h

theorem stmtReader_sound : StmtSound stmtReader := fun ts =>
  (statement_blockRest_sound ts.length).1 ts

theorem bodyReader_sound : BodySound bodyReader := fun ts =>
  (statement_blockRest_sound (ts.length + 1)).2 ts

theorem programReader_sound {ts : List Token} {p : Program} (h : programReader ts = .ok p) :
    p.WellFormed ∧ p.SpelledBy ts := by
  induction hn : ts.length using Nat.strongRecOn generalizing ts p with
  | _ n ih =>
    cases hts : ts with
    | nil =>
      rw [hts] at h
      cases h
      exact ⟨trivial, .nil⟩
    | cons t us =>
      rw [← hts]
      cases hs : stmtReader ts with
      | error m =>
        rw [programReader_of_error (by simp [hts]) hs] at h
        cases h
      | ok q =>
        obtain ⟨s, rest⟩ := q
        rw [programReader_of_ok hs] at h
        cases hr : programReader rest with
        | error m =>
          rw [hr] at h
          cases h
        | ok ss =>
          rw [hr] at h
          cases h
          obtain ⟨hwss, hss⟩ := ih rest.length (hn ▸ length_of_stmtReader hs) hr rfl
          obtain ⟨hws, hf, pre, hpre, rfl⟩ := stmtReader_sound _ _ _ hs
          exact ⟨⟨hws, hwss⟩, .cons hpre hf hss⟩

/-! ### Completeness -/

theorem stmtReader_keyword (k : Keyword) (ts : List Token) :
    stmtReader (utf8 k.word :: ts) = keywordStatement stmtReader bodyReader k ts := by
  rw [stmtReader_cons, statementStep, Keyword.ofToken?_eq_some.2 rfl]

theorem binding_complete {make : Token → Expr → Stmt} {name : Token} {value : Expr}
    {v rest : List Token} (hname : name.isIdent) (hvalue : value.WellFormed)
    (hv : value.SpelledBy v) :
    binding make (name :: utf8 "=" :: (v ++ utf8 ";" :: rest)) = .ok (make name value, rest) := by
  unfold binding
  rw [bind_of_ok (identifier_ok.2 ⟨rfl, hname⟩), bind_of_ok (symbol_cons _ _),
    bind_of_ok (expression_complete hvalue hv), bind_of_ok (symbol_cons _ _)]
  rfl

theorem block_complete {body : Reader (List Stmt)} {ss : List Stmt} {b rest : List Token}
    (h : body (b ++ utf8 "\x7d" :: rest) = .ok (ss, rest)) :
    block body (braceTokens b ++ rest) = .ok (ss, rest) := by
  unfold block braceTokens
  rw [List.cons_append, bind_of_ok (symbol_cons _ _), List.append_assoc]
  exact h

/-- The first token of a statement is a keyword or an identifier, so it never closes a block. -/
theorem head_of_spelledBy {s : Stmt} {pre : List Token} (hs : s.SpelledBy pre) (hw : s.WellFormed) :
    ∃ t ts, pre = t :: ts ∧ t ≠ utf8 "\x7d" := by
  cases hs with
  | assign =>
    refine ⟨_, _, rfl, ?_⟩
    rintro rfl
    exact absurd hw.1.1 (by decide)
  | call =>
    refine ⟨_, _, rfl, ?_⟩
    rintro rfl
    exact absurd hw.1.1 (by decide)
  | _ => exact ⟨_, _, rfl, by simp [utf8_inj]⟩

theorem mayFollow_append {s : Stmt} {ts : List Token} (hf : s.MayFollow ts) {t : Token}
    (ht : t ≠ utf8 "else") (rest : List Token) : s.MayFollow (ts ++ t :: rest) := by
  intro hlacks
  cases ts with
  | nil => simpa using ht
  | cons u us => exact hf hlacks

mutual

theorem stmtReader_complete {s : Stmt} {pre rest : List Token} (hs : s.SpelledBy pre)
    (hw : s.WellFormed) (hf : s.MayFollow rest) : stmtReader (pre ++ rest) = .ok (s, rest) := by
  cases hs with
  | declare hv =>
    simp only [List.cons_append, List.append_assoc, List.nil_append]
    exact (stmtReader_keyword .int _).trans (binding_complete hw.1 hw.2 hv)
  | @assign name value v hv =>
    obtain ⟨⟨hident, hplain⟩, hvalue⟩ := hw
    simp only [List.cons_append, List.append_assoc, List.nil_append]
    rw [stmtReader_cons, statementStep, Keyword.ofToken?_eq_none.2 hplain]
    simp only [hident, if_true, List.head?_cons]
    exact binding_complete hident hvalue hv
  | print => exact stmtReader_keyword .print _
  | read =>
    refine (stmtReader_keyword .read _).trans ?_
    exact bind_ok.2 ⟨_, _, identifier_ok.2 ⟨rfl, hw⟩, rfl⟩
  | @ite cond body b hb =>
    obtain ⟨hcond, hbody⟩ := hw
    have helse : ¬ (rest.head? == some (utf8 "else")) = true := by simpa using hf trivial
    simp only [List.cons_append, List.append_assoc]
    refine (stmtReader_keyword .if _).trans ?_
    refine bind_ok.2 ⟨cond, _, guard_ok.2 ⟨hcond, rfl⟩, bind_ok.2 ⟨body, rest,
      block_complete (bodyReader_complete hb hbody rest), ?_⟩⟩
    rw [at?_bind, if_neg helse]
    rfl
  | @iteElse cond body alternative b a hb ha =>
    obtain ⟨hcond, hbody, halt⟩ := hw
    simp only [List.cons_append, List.append_assoc]
    refine (stmtReader_keyword .if _).trans ?_
    refine bind_ok.2 ⟨cond, _, guard_ok.2 ⟨hcond, rfl⟩, bind_ok.2 ⟨body, _,
      block_complete (bodyReader_complete hb hbody _), ?_⟩⟩
    rw [at?_bind, if_pos (by simp)]
    exact bind_ok.2 ⟨(), _, symbol_cons _ _, bind_ok.2 ⟨alternative, rest,
      block_complete (bodyReader_complete ha halt rest), rfl⟩⟩
  | @«while» cond body b hb =>
    simp only [List.cons_append, List.append_assoc]
    refine (stmtReader_keyword .while _).trans ?_
    exact bind_ok.2 ⟨cond, _, guard_ok.2 ⟨hw.1, rfl⟩, bind_ok.2 ⟨body, rest,
      block_complete (bodyReader_complete hb hw.2 rest), rfl⟩⟩
  | @«for» init step cond body i j b hi hc hj hb =>
    obtain ⟨hinit, hcond, hstep, hbody⟩ := hw
    simp only [List.cons_append, List.append_assoc]
    refine (stmtReader_keyword .for _).trans ?_
    exact bind_ok.2 ⟨(), _, symbol_cons _ _, bind_ok.2 ⟨init, _, stmtReader_complete hi hinit hc,
      bind_ok.2 ⟨cond, _, condition_ok.2 ⟨hcond, rfl⟩, bind_ok.2 ⟨(), _, symbol_cons _ _,
      bind_ok.2 ⟨step, _, stmtReader_complete hj hstep (fun _ => by simp [utf8_inj]),
      bind_ok.2 ⟨(), _, symbol_cons _ _, bind_ok.2 ⟨body, rest,
      block_complete (bodyReader_complete hb hbody rest), rfl⟩⟩⟩⟩⟩⟩⟩
  | @«fun» name params body b hb =>
    obtain ⟨hname, hparams, hbody⟩ := hw
    simp only [List.cons_append, List.append_assoc]
    refine (stmtReader_keyword .fun _).trans ?_
    exact bind_ok.2 ⟨name, _, identifier_ok.2 ⟨rfl, hname⟩, bind_ok.2 ⟨params, _,
      parameters_ok.2 ⟨hparams, rfl⟩, bind_ok.2 ⟨body, rest,
      block_complete (bodyReader_complete hb hbody rest), rfl⟩⟩⟩
  | @call name args =>
    obtain ⟨⟨hident, hplain⟩, hargs⟩ := hw
    simp only [List.cons_append, List.append_assoc, List.nil_append]
    have hhead : (parenTokens args ++ utf8 ";" :: rest).head? = some (utf8 "(") := rfl
    rw [stmtReader_cons, statementStep, Keyword.ofToken?_eq_none.2 hplain]
    simp only [hident, if_true, hhead]
    rw [if_neg (by simp [utf8_inj])]
    exact bind_ok.2 ⟨args, _, arguments_ok.2 ⟨hargs, rfl⟩,
      bind_ok.2 ⟨(), rest, symbol_cons _ _, rfl⟩⟩
  | @«return» value v hv =>
    simp only [List.cons_append, List.append_assoc, List.nil_append]
    refine (stmtReader_keyword .return _).trans ?_
    exact bind_ok.2 ⟨value, _, expression_complete hw hv,
      bind_ok.2 ⟨(), rest, symbol_cons _ _, rfl⟩⟩

theorem bodyReader_complete {ss : List Stmt} {pre : List Token} (hs : Program.SpelledBy ss pre)
    (hw : Program.WellFormed ss) (rest : List Token) :
    bodyReader (pre ++ utf8 "\x7d" :: rest) = .ok (ss, rest) := by
  cases hs with
  | nil => rw [List.nil_append, bodyReader_cons, if_pos rfl]
  | @cons s ss t ts hs hf hss =>
    obtain ⟨u, us, rfl, hu⟩ := head_of_spelledBy hs hw.1
    have hs' := stmtReader_complete hs hw.1
      (mayFollow_append hf (by simp [utf8_inj] : utf8 "\x7d" ≠ utf8 "else") rest)
    have hss' := bodyReader_complete hss hw.2 rest
    rw [List.append_assoc]
    rw [List.cons_append] at hs' ⊢
    rw [bodyReader_cons, if_neg hu]
    exact bind_ok.2 ⟨s, _, hs', bind_ok.2 ⟨ss, rest, hss', rfl⟩⟩

end

theorem programReader_complete {p : Program} {ts : List Token} (hs : p.SpelledBy ts)
    (hw : p.WellFormed) : programReader ts = .ok p := by
  induction p generalizing ts with
  | nil =>
    cases hs
    rfl
  | cons s ss ih =>
    cases hs with
    | cons hs hf hss =>
      rw [programReader_of_ok (stmtReader_complete hs hw.1 hf), ih hss hw.2]
      rfl

end Syntax

/-- **The parser is exact**: it returns a program if and only if the program is well formed and the
tokens are a spelling of it. -/
theorem parse_eq_ok_iff (ts : List Token) (p : Program) :
    parse ts = .ok p ↔ p.WellFormed ∧ p.SpelledBy ts := by
  rw [parse_eq_ok]
  constructor
  · exact Syntax.programReader_sound
  · rintro ⟨hw, hs⟩
    exact Syntax.programReader_complete hs hw

end Scriptlet
