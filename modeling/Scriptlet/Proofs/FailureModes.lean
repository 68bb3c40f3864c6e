import Scriptlet.Proofs.Provenance

/-!
# Scriptlet.Proofs.FailureModes — the ways in which a program from the parser fails

A program from the parser has no gaps and no unknown operators.  So its run succeeds, or it fails in
one of four ways, each with a cause that can be named: a call in the program of a function that is
not there, a call in the program too deep, a `read` in the program that the console refused, or a
cancellation (`failure_documented`).

`Moment.Warranted` says that a failure has its cause.  A failure on its way out leaves the console
alone, so what was true of the console when it came up is true at the end of the run.
-/

namespace Scriptlet

/-- The console refused the last request, which was for the variable `name`: nothing was queued, and
there was no provider or the provider failed. -/
def Console.Refused (c : Console) (name : Token) (fault : InputFault) : Prop :=
  c.queue = [] ∧
    ((c.provider = none ∧ fault = .unavailable) ∨
      ∃ q older, c.provider = some q ∧ c.asked = c.request name :: older ∧
        q.reply c.asked = .error fault)

theorem Console.refused_of_answer {c c' : Console} {name : Token} {fault : InputFault}
    (h : c.answer name = (.error fault, c')) : c'.Refused name fault := by
  cases hq : c.queue with
  | cons raw rest =>
    rw [answer_of_queue hq] at h
    cases (Prod.mk.inj h).1
  | nil =>
    cases hp : c.provider with
    | none =>
      rw [answer_of_none hq hp] at h
      obtain ⟨hfault, rfl⟩ := Prod.mk.inj h
      exact ⟨hq, .inl ⟨hp, (Except.error.inj hfault).symm⟩⟩
    | some q =>
      rw [answer_of_provider hq hp] at h
      obtain ⟨hreply, rfl⟩ := Prod.mk.inj h
      exact ⟨hq, .inr ⟨q, c.asked, hp, rfl, hreply⟩⟩

/-- A failure that a program may end with, on the console `c`, when it has passed through certain
moments: it has a cause in the text, and in the console where the console has a part in it. -/
inductive Program.MayFail (p : Program) (context : Context) (passed : Moment × Console → Prop)
    (c : Console) : RunError → Prop
  | functionNotFound {name : Token} (h : p.Calls name) :
    MayFail p context passed c (.functionNotFound name)
  | callDepth {name : Token} (h : p.Calls name) : MayFail p context passed c (.callDepth name)
  | read {name : Token} {fault : InputFault} (h : p.Contains (.read name))
    (hc : c.Refused name fault) : MayFail p context passed c (.read name fault)
  | canceled {x : Moment × Console} (h : passed x) (hc : x.2.cancelled context = true)
    (hlook : c = x.2.look) : MayFail p context passed c .canceled

namespace Moment

variable {p : Program} {m : Moment}

theorem Traced.contains (h : m.Traced p) {s : Stmt} (hs : m.Executes s) : p.Contains s := by
  obtain ⟨work, σ⟩ := m
  obtain ⟨n, depth, rest, rfl⟩ := hs
  exact h.work.1.contains

theorem Traced.hasExpr (h : m.Traced p) {e : Expr} (he : m.Evaluates e) : p.HasExpr e := by
  obtain ⟨work, σ⟩ := m
  obtain ⟨n, depth, rest, rfl⟩ := he
  exact h.work.1

theorem Traced.calls (h : m.Traced p) {name : Token} (hname : m.Calls name) : p.Calls name := by
  obtain ⟨work, σ⟩ := m
  obtain ⟨n, depth, args, rest, rfl⟩ := hname
  exact h.work.1

/-- The condition is about to be tested, by a conditional or a loop. -/
def Tests (m : Moment) (cond : Condition) : Prop :=
  (∃ body alternative, m.Executes (.ite cond body alternative)) ∨
    ∃ n depth l rest, m.work = .loop (n + 1) depth l rest ∧ l.cond = cond

theorem Traced.hasCondition (h : m.Traced p) {cond : Condition} (hc : m.Tests cond) :
    p.HasCondition cond := by
  rcases hc with ⟨body, alternative, hs⟩ | ⟨n, depth, l, rest, hwork, rfl⟩
  · exact ⟨_, h.contains hs, rfl⟩
  · obtain ⟨work, σ⟩ := m
    obtain rfl := hwork
    exact h.work.1.cond

end Moment

namespace Program.WellFormed

variable {p : Program}

theorem hasExpr (h : p.WellFormed) {e : Expr} (he : p.HasExpr e) : e.WellFormed := by
  obtain ⟨s, hs, hvalue⟩ := he
  have hw := h.contains hs
  cases s with
  | declare name value => exact Option.some.inj hvalue ▸ hw.2
  | assign name value => exact Option.some.inj hvalue ▸ hw.2
  | «return» value => exact Option.some.inj hvalue ▸ hw
  | _ => cases hvalue

theorem hasCondition (h : p.WellFormed) {c : Condition} (hc : p.HasCondition c) :
    c.WellFormed := by
  obtain ⟨s, hs, hcond⟩ := hc
  have hw := h.contains hs
  cases s with
  | ite cond body alternative =>
    cases alternative with
    | none => exact Option.some.inj hcond ▸ hw.1
    | some body' => exact Option.some.inj hcond ▸ hw.1
  | «while» cond body => exact Option.some.inj hcond ▸ hw.1
  | «for» init cond step body => exact Option.some.inj hcond ▸ hw.2.1
  | _ => cases hcond

end Program.WellFormed

namespace Moment

variable {p : Program} {mode : ReturnMode} {context : Context} {passed : Moment × Console → Prop}
  {x y : Moment × Console}

/-- The failure on its way out, if there is one, has its cause. -/
def Warranted (p : Program) (context : Context) (passed : Moment × Console → Prop)
    (x : Moment × Console) : Prop :=
  ∀ e, x.1.failure? = some e → p.MayFail context passed x.2 e

theorem Traced.mayFail {m : Moment} (h : m.Traced p) (hw : p.WellFormed) {e : RunError}
    (he : m.Raises e) (c : Console) : p.MayFail context passed c e := by
  cases he with
  | functionNotFound hcalls _ => exact .functionNotFound (h.calls hcalls)
  | callDepth hcalls => exact .callDepth (h.calls hcalls)
  | unsupportedStatement hs => exact (hw.contains (h.contains hs)).elim
  | unsupportedExpression he => exact (hw.hasExpr (h.hasExpr he)).elim

theorem Warranted.step (hx : Warranted p context passed x) (hw : p.WellFormed) (hpassed : passed x)
    (htraced : x.1.Traced p) (h : Step mode context x y) : Warranted p context passed y := by
  intro e he
  rcases h.failure he with
    ⟨hfailure, hc⟩ | hraises | ⟨name, fault, rfl, hread, hanswer⟩ | ⟨rfl, hcancelled, hc⟩
  · rw [hc]
    exact hx e hfailure
  · exact htraced.mayFail hw hraises y.2
  · exact .read (htraced.contains hread) (Console.refused_of_answer hanswer)
  · exact .canceled hpassed hcancelled hc

theorem warranted_of_reaches (hw : p.WellFormed) {n : Nat} {c : Console}
    (h : Reaches mode context (.start p n, c) x) :
    Warranted p context (Reaches mode context (.start p n, c)) x := by
  induction h with
  | refl => exact fun e he => by cases he
  | tail hpassed hstep ih => exact ih.step hw hpassed (traced_of_reaches hpassed) hstep

end Moment

theorem Session.mayFail_of_run {s s' : Session} {context : Context} {n : Nat} {r : RunRecord}
    {e : RunError} (hw : s.program.WellFormed) (h : s.run context n = some (r, s'))
    (he : r.result = .error e) :
    ∃ c : Console, c.Closes s r s' ∧ s.program.MayFail context (s.Passes context n) c e := by
  obtain ⟨c, hcloses, hpasses, -⟩ := Session.exists_last h
  refine ⟨c, hcloses, Moment.warranted_of_reaches hw hpasses e ?_⟩
  rw [Moment.failure?, he]

/-- **A program from the parser fails in documented ways only.**  Let `s` be a session with a
program from the parser.  A run that ends succeeds or fails in one of four ways:

* a function is not found, and a call of it stands in the program;
* a call is too deep, and a call of that function stands in the program;
* a variable cannot be read: a `read` of it stands in the program, no answer was queued, and there
  was no provider, or the provider failed at its last request, which was for this variable;
* the run was cancelled: it found so at some moment, with the lines and requests that it ends with.

It never fails for a gap in the program, and all operators that it meets are known. -/
theorem failure_documented {tokens : List Token} {s : Session} (hp : parse tokens = .ok s.program)
    (context : Context) (n : Nat) :
    (∀ r s', s.run context n = some (r, s') →
      r.result = .ok () ∨
      (∃ name, r.result = .error (.functionNotFound name) ∧ s.program.Calls name) ∨
      (∃ name, r.result = .error (.callDepth name) ∧ s.program.Calls name ∧
        (RunError.callDepth name).message = name ++ utf8 ": call depth limit exceeded") ∨
      (∃ name fault, r.result = .error (.read name fault) ∧ s.program.Contains (.read name) ∧
        (RunError.read name fault).message = utf8 "read " ++ name ++ utf8 ": " ++ fault.message ∧
        s'.queue = [] ∧
        ((s.provider = none ∧ fault = .unavailable) ∨
          ∃ q older, s.provider = some q ∧
            s'.asked = ⟨name, Prompt.expand s.prompt name⟩ :: older ∧
            q.reply s'.asked = .error fault)) ∨
      (r.result = .error .canceled ∧ ∃ m c, s.Passes context n (m, c) ∧
        c.cancelled context = true ∧ r.outputs = c.outputs.toList ∧
        r.requests = c.requests.toList)) ∧
    (∀ r s', s.run context n = some (r, s') →
      r.result ≠ .error .unsupportedStatement ∧ r.result ≠ .error .unsupportedExpression) ∧
    (∀ d c, (s.program.dialogue s.mode n).Reaches context s.console d c ↔
      ∃ m, s.Passes context n (m, c) ∧ m.dialogue s.mode = d) ∧
    ∀ m c, s.Passes context n (m, c) →
      (∀ left op right, m.Evaluates (.binary left op right) → (ArithOp.ofToken? op).isSome) ∧
      ∀ cond, m.Tests cond → (CompareOp.ofToken? cond.op).isSome := by
  have hw := wellFormed_of_parse hp
  refine ⟨fun r s' hrun => ?_, fun r s' hrun => ?_, fun d c => Session.reaches_iff_passes,
    fun m c hpasses => ⟨fun left op right he => ?_, fun cond hcond => ?_⟩⟩
  · cases hr : r.result with
    | ok u => exact .inl rfl
    | error e =>
      obtain ⟨c, hcloses, hfail⟩ := Session.mayFail_of_run hw hrun hr
      cases hfail with
      | functionNotFound h => exact .inr (.inl ⟨_, rfl, h⟩)
      | callDepth h => exact .inr (.inr (.inl ⟨_, rfl, h, rfl⟩))
      | read h hc =>
        obtain ⟨hqueue, hcause⟩ := hc
        refine .inr (.inr (.inr (.inl ⟨_, _, rfl, h, rfl, hcloses.queue.trans hqueue, ?_⟩)))
        rcases hcause with ⟨hnone, hfault⟩ | ⟨q, older, hq, hasked, hreply⟩
        · exact .inl ⟨hcloses.provider.trans hnone, hfault⟩
        · refine .inr ⟨q, older, hcloses.provider.trans hq, ?_, ?_⟩
          · rw [hcloses.asked, hasked, Console.request, hcloses.prompt]
          · rw [hcloses.asked, hreply]
      | @canceled x hpasses hc hlook =>
        subst hlook
        exact .inr (.inr (.inr (.inr ⟨rfl, x.1, x.2, hpasses, hc, hcloses.outputs,
          hcloses.requests⟩)))
  · refine ⟨fun hr => ?_, fun hr => ?_⟩
    · obtain ⟨c, -, hfail⟩ := Session.mayFail_of_run hw hrun hr
      cases hfail
    · obtain ⟨c, -, hfail⟩ := Session.mayFail_of_run hw hrun hr
      cases hfail
  · have hwell := hw.hasExpr ((Moment.traced_of_reaches hpasses).hasExpr he)
    exact ArithOp.isSome_ofToken?.mpr hwell.2.2
  · have hwell := hw.hasCondition ((Moment.traced_of_reaches hpasses).hasCondition hcond)
    exact CompareOp.isSome_ofToken?.mpr hwell

/-- A variable is read without any input, after a loop that is passed over. -/
theorem failure_documented_read :
    let x := utf8 "x"
    let s := Session.new [.while ⟨x, utf8 "<", utf8 "9"⟩ [], .print x, .read x]
    (parse (["while", "(", "x", "<", "9", ")", "\x7b", "\x7d", "print", "x", ";", "read", "x",
        ";"].map utf8) = .ok s.program ∧
      ∃ r s', s.run .never 5 = some (r, s') ∧ r.result = .error (.read x .unavailable)) ∧
      s.program.Contains (.read x) := by
  intro x s
  have hp : parse (["while", "(", "x", "<", "9", ")", "\x7b", "\x7d", "print", "x", ";", "read",
      "x", ";"].map utf8) = .ok s.program := rfl
  have hrun : ∃ r s', s.run .never 5 = some (r, s') ∧ r.result = .error (.read x .unavailable) :=
    ⟨_, _, rfl, rfl⟩
  refine ⟨⟨hp, hrun⟩, ?_⟩
  obtain ⟨r, s', hrun, hr⟩ := hrun
  rcases (failure_documented hp .never 5).1 r s' hrun with
    h | ⟨name, h, -⟩ | ⟨name, h, -⟩ | ⟨name, fault, h, hcontains, -⟩ | ⟨h, -⟩
  · cases hr.symm.trans h
  · cases hr.symm.trans h
  · cases hr.symm.trans h
  · cases hr.symm.trans h
    exact hcontains
  · cases hr.symm.trans h

end Scriptlet
