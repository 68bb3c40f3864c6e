import Mathlib.Logic.Relation
import Scriptlet.Proofs.Cancellation
import Scriptlet.Proofs.Moments
import Scriptlet.Proofs.Transcript

/-!
# Scriptlet.Proofs.Course — the course of a run

A run goes from moment to moment, and the console answers what is asked.  Every moment that it
reaches is a point of its dialogue (`Moment.Reaches.dialogue`), and every point is such a moment
(`Moment.exists_reaches`), since a run does not stay silent for ever (`Moment.Moves.weight_lt`).  A
run that ends does so at the last of its moments (`Session.exists_last`).

Two things are said of single steps, for all that follows: where a failure comes from
(`Moment.Step.failure`), and what becomes of the function table (`Moment.Moves.keeps`).
-/

namespace Scriptlet

/-! ### Silence does not last -/

mutual

/-- How many silent moves may follow a statement, at most. -/
def AfterStmt.weight : AfterStmt → Nat
  | .top _ _ => 2
  | .list _ _ _ rest => 2 + rest.weight
  | .ite rest => 1 + rest.weight
  | .pass _ _ _ rest => 1 + rest.weight
  | .loop _ _ _ rest => 4 + rest.weight
  | .body _ _ _ _ rest => 1 + rest.weight

def AfterValue.weight : AfterValue → Nat
  | .bind _ rest => 1 + rest.weight
  | .drop rest => 1 + rest.weight
  | .result _ _ rest => 1 + rest.weight

end

/-- A `return` still has its expression to be evaluated. -/
def Completion.weight : Completion → Nat
  | .next => 0
  | .return _ => 5

/-- How many silent moves may be made in a row, at most.  Only the beginnings of `for` nest without
an exchange, so the bound counts for a statement alone. -/
def Work.weight : Work → Nat
  | .exec n _ _ rest => 5 * n + 5 + rest.weight
  | .list _ _ _ rest => 1 + rest.weight
  | .loop _ _ _ rest => 3 + rest.weight
  | .eval _ _ _ rest => 4 + rest.weight
  | .call _ _ _ _ rest => 3 + rest.weight
  | .top _ _ => 1
  | .ended (.ok c) rest => c.weight + rest.weight
  | .ended (.error _) rest => rest.weight
  | .valued _ rest => rest.weight
  | .finished _ => 0

theorem ReturnMode.weight_outside (mode : ReturnMode) (c : Completion) :
    (mode.outside c).weight ≤ c.weight := by
  cases mode with
  | discard => exact Nat.zero_le _
  | propagate => exact Nat.le_refl _

/-- Silent moves make a moment lighter, so they come to an end. -/
theorem Moment.Moves.weight_lt {mode : ReturnMode} {m next : Moment}
    (h : m.Moves mode (.silent next)) : next.work.weight < m.work.weight := by
  cases h with
  | @afterIte c =>
    have := mode.weight_outside c
    simp only [Work.weight, AfterStmt.weight]
    omega
  | @passReturn c _ _ _ _ _ _ h =>
    have := mode.weight_outside c
    rw [h] at this
    simp only [Work.weight, AfterStmt.weight]
    omega
  | @failed _ rest =>
    cases rest <;>
      · simp only [AfterStmt.skip, Work.weight, AfterStmt.weight]
        omega
  | @failedExpr _ after =>
    cases after <;>
      · simp only [AfterValue.skip, Work.weight, AfterValue.weight]
        omega
  | _ =>
    simp only [Work.weight, AfterStmt.weight, AfterValue.weight, Completion.weight]
    omega

/-! ### Failures and definitions -/

namespace Moment

/-- The failure that is on its way out. -/
def failure? (m : Moment) : Option RunError :=
  match m.work with
  | .ended (.error e) _ => some e
  | .valued (.error e) _ => some e
  | .finished (.error e) => some e
  | _ => none

/-- The statement `s` is about to be executed. -/
def Executes (m : Moment) (s : Stmt) : Prop :=
  ∃ n depth rest, m.work = .exec (n + 1) depth s rest

/-- The expression `e` is about to be evaluated. -/
def Evaluates (m : Moment) (e : Expr) : Prop :=
  ∃ n depth rest, m.work = .eval (n + 1) depth e rest

/-- The function `name` is about to be called. -/
def Calls (m : Moment) (name : Token) : Prop :=
  ∃ n depth args rest, m.work = .call (n + 1) depth name args rest

/-- The failures that a moment brings about by itself. -/
inductive Raises (m : Moment) : RunError → Prop
  | functionNotFound {name : Token} (h : m.Calls name) (hf : m.state.functions.get? name = none) :
    Raises m (.functionNotFound name)
  | callDepth {name : Token} (h : m.Calls name) : Raises m (.callDepth name)
  | unsupportedStatement (h : m.Executes .absent) : Raises m .unsupportedStatement
  | unsupportedExpression (h : m.Evaluates .absent) : Raises m .unsupportedExpression

variable {mode : ReturnMode} {m next : Moment}

theorem failure?_skip (rest : AfterStmt) (σ : RunState) (e : RunError) :
    (rest.skip σ e).failure? = some e := by
  cases rest <;> rfl

theorem failure?_skip_value (after : AfterValue) (σ : RunState) (e : RunError) :
    (after.skip σ e).failure? = some e := by
  cases after <;> rfl

theorem Moves.failure_silent (h : m.Moves mode (.silent next)) {e : RunError}
    (he : next.failure? = some e) : m.failure? = some e ∨ m.Raises e := by
  cases h with
  | absent =>
    cases he
    exact .inr (.unsupportedStatement ⟨_, _, _, rfl⟩)
  | absentExpr =>
    cases he
    exact .inr (.unsupportedExpression ⟨_, _, _, rfl⟩)
  | notFound h =>
    cases he
    exact .inr (.functionNotFound ⟨_, _, _, _, rfl⟩ h)
  | tooDeep h =>
    cases he
    exact .inr (.callDepth ⟨_, _, _, _, rfl⟩)
  | failed => exact .inl ((failure?_skip _ _ _).symm.trans he)
  | failedExpr => exact .inl ((failure?_skip_value _ _ _).symm.trans he)
  | _ => cases he

theorem Moves.failure_say {text : Text} (h : m.Moves mode (.say text next)) :
    next.failure? = none := by
  cases h
  rfl

theorem Moves.failure_ask {name : Token} {given : Text → Moment} {refused : InputFault → Moment}
    (h : m.Moves mode (.ask name given refused)) :
    m.Executes (.read name) ∧ (∀ raw, (given raw).failure? = none) ∧
      ∀ fault, (refused fault).failure? = some (.read name fault) := by
  cases h
  exact ⟨⟨_, _, _, rfl⟩, fun _ => rfl, fun _ => rfl⟩

theorem failure?_again (l : LoopCode) (n depth : Nat) (rest : AfterStmt) (σ : RunState) :
    Moment.failure? ⟨l.again n depth rest, σ⟩ = none := by
  obtain ⟨cond, body, step⟩ := l
  cases step <;> rfl

theorem Moves.failure_poll {stop go : Moment} (h : m.Moves mode (.poll stop go)) :
    stop.failure? = some .canceled ∧ go.failure? = none := by
  cases h with
  | cons => exact ⟨rfl, rfl⟩
  | topCons => exact ⟨rfl, rfl⟩
  | passNext h => exact ⟨rfl, failure?_again _ _ _ _ _⟩

end Moment

/-- `P` holds at the next moment, whatever the answer. -/
def Move.All (P : Moment → Prop) : Move → Prop
  | .silent next => P next
  | .say _ next => P next
  | .ask _ given refused => (∀ raw, P (given raw)) ∧ ∀ fault, P (refused fault)
  | .poll stop go => P stop ∧ P go
  | .done _ => True
  | .cut => True

namespace Moment

variable {mode : ReturnMode} {m : Moment}

/-- From `m` to `m'` the function table stays as it is, unless a definition is executed at `m`. -/
def Keeps (m m' : Moment) : Prop :=
  m'.state.functions = m.state.functions ∨
    ∃ name params body, m.Executes (.fun name params body) ∧
      m'.state.functions = m.state.functions.set name ⟨params, body⟩

theorem Moves.keeps {move : Move} (h : m.Moves mode move) : move.All m.Keeps := by
  cases h with
  | cut => trivial
  | read => exact ⟨fun _ => .inl rfl, fun _ => .inl rfl⟩
  | «fun» => exact .inr ⟨_, _, _, ⟨_, _, _, rfl⟩, rfl⟩
  | cons => exact ⟨.inl rfl, .inl rfl⟩
  | topCons => exact ⟨.inl rfl, .inl rfl⟩
  | passNext => exact ⟨.inl rfl, .inl rfl⟩
  | @failed _ rest => cases rest <;> exact .inl rfl
  | @failedExpr _ after => cases after <;> exact .inl rfl
  | finished => trivial
  | _ => exact .inl rfl

end Moment

/-! ### Runs -/

/-- Where a move leads to on a console that answers what is asked. -/
inductive Move.Leads (context : Context) (c : Console) : Move → Moment × Console → Prop
  | silent {next : Moment} : Leads context c (.silent next) (next, c)
  | say {text : Text} {next : Moment} : Leads context c (.say text next) (next, c.emit ⟨text, false⟩)
  | given {name : Token} {given : Text → Moment} {refused : InputFault → Moment} {raw : Text}
    {c' : Console} (h : c.answer name = (.ok raw, c')) :
    Leads context c (.ask name given refused) (given raw, c')
  | refused {name : Token} {given : Text → Moment} {refused : InputFault → Moment}
    {fault : InputFault} {c' : Console} (h : c.answer name = (.error fault, c')) :
    Leads context c (.ask name given refused) (refused fault, c')
  | stop {stop go : Moment} (h : c.cancelled context = true) :
    Leads context c (.poll stop go) (stop, c.look)
  | go {stop go : Moment} (h : c.cancelled context = false) :
    Leads context c (.poll stop go) (go, c.look)

/-- From a moment to the next. -/
def Moment.Step (mode : ReturnMode) (context : Context) (x y : Moment × Console) : Prop :=
  ∃ move, x.1.Moves mode move ∧ move.Leads context x.2 y

/-- From a moment to a later one, in any number of steps. -/
def Moment.Reaches (mode : ReturnMode) (context : Context) :
    Moment × Console → Moment × Console → Prop :=
  Relation.ReflTransGen (Step mode context)

theorem Dialogue.Reaches.trans {ρ : Type} {context : Context} {d d' d'' : Dialogue ρ}
    {c c' c'' : Console} (h : d.Reaches context c d' c') (h' : d'.Reaches context c' d'' c'') :
    d.Reaches context c d'' c'' := by
  induction h with
  | refl => exact h'
  | say _ ih => exact .say (ih h')
  | ask _ ih => exact .ask (ih h')
  | poll _ ih => exact .poll (ih h')

theorem Dialogue.reaches_done {ρ : Type} {context : Context} {d : Dialogue ρ} {c c' : Console}
    {result : ρ} (h : d.play context c = some (result, c')) :
    d.Reaches context c (.done result) c' := by
  induction d generalizing c with
  | done result' =>
    obtain ⟨rfl, rfl⟩ : result' = result ∧ c = c' := by simpa [Dialogue.play] using h
    exact .refl
  | say text next ih => exact .say (ih h)
  | ask name next ih => exact .ask (ih _ h)
  | poll next ih => exact .poll (ih _ h)
  | cut => simp [Dialogue.play] at h

namespace Move.Leads

variable {mode : ReturnMode} {context : Context} {c : Console} {move : Move}
  {y : Moment × Console}

theorem dialogue (h : move.Leads context c y) :
    (move.dialogue mode).Reaches context c (y.1.dialogue mode) y.2 := by
  cases h with
  | silent => exact .refl
  | say => exact .say .refl
  | given h =>
    refine .ask ?_
    rw [h]
    exact .refl
  | refused h =>
    refine .ask ?_
    rw [h]
    exact .refl
  | stop h =>
    refine .poll ?_
    rw [h]
    exact .refl
  | go h =>
    refine .poll ?_
    rw [h]
    exact .refl

theorem of_all {P : Moment → Prop} (h : move.Leads context c y) (hall : move.All P) : P y.1 := by
  cases h with
  | silent => exact hall
  | say => exact hall
  | given h => exact hall.1 _
  | refused h => exact hall.2 _
  | stop h => exact hall.1
  | go h => exact hall.2

end Move.Leads

namespace Moment

variable {mode : ReturnMode} {context : Context} {m m' : Moment} {c c' : Console}
  {x y : Moment × Console}

/-- A moment that a run reaches is a point of its dialogue. -/
theorem Reaches.dialogue (h : Reaches mode context x y) :
    (x.1.dialogue mode).Reaches context x.2 (y.1.dialogue mode) y.2 := by
  induction h with
  | refl => exact .refl
  | tail _ h ih =>
    obtain ⟨move, hmove, hleads⟩ := h
    refine ih.trans ?_
    rw [hmove.dialogue]
    exact hleads.dialogue

/-- In silence a run gets to the next exchange of its dialogue, or to its end. -/
theorem exists_opens (context : Context) (c : Console) {d : Dialogue Report}
    (hd : m.dialogue mode = d) :
    ∃ m' move, Reaches mode context (m, c) (m', c) ∧ m'.Moves mode move ∧ move.Opens mode d := by
  induction hw : m.work.weight using Nat.strongRecOn generalizing m with
  | ind w ih =>
    obtain ⟨move, hmove⟩ := m.exists_moves mode
    rw [hmove.dialogue] at hd
    rcases move.silent_or_opens mode with ⟨next, rfl⟩ | hopens
    · have hlight : next.work.weight < w := by
        have := hmove.weight_lt
        rwa [hw] at this
      obtain ⟨m', move', hreach, hmove', hopens⟩ := ih _ hlight hd rfl
      exact ⟨m', move', .head ⟨_, hmove, .silent⟩ hreach, hmove', hopens⟩
    · exact ⟨m, move, .refl, hmove, hd ▸ hopens⟩

/-- Every point of the dialogue is a moment that the run reaches. -/
theorem exists_reaches {d : Dialogue Report} (h : (m.dialogue mode).Reaches context c d c') :
    ∃ m', Reaches mode context (m, c) (m', c') ∧ m'.dialogue mode = d := by
  generalize hd : m.dialogue mode = e at h
  induction h generalizing m with
  | refl => exact ⟨m, .refl, hd⟩
  | @say text next d c c' _ ih =>
    obtain ⟨m₁, move, hreach, hmove, hopens⟩ := exists_opens context c hd
    cases hopens with
    | say =>
      obtain ⟨m', hreach', hm'⟩ := ih rfl
      exact ⟨m', hreach.trans (.head ⟨_, hmove, .say⟩ hreach'), hm'⟩
  | @ask name next d c c' _ ih =>
    obtain ⟨m₁, move, hreach, hmove, hopens⟩ := exists_opens context c hd
    cases hopens with
    | @ask _ given refused =>
      rcases hanswer : c.answer name with ⟨fault | raw, c₁⟩
      · obtain ⟨m', hreach', hm'⟩ := ih (m := refused fault) (by rw [hanswer])
        rw [hanswer] at hreach'
        exact ⟨m', hreach.trans (.head ⟨_, hmove, .refused hanswer⟩ hreach'), hm'⟩
      · obtain ⟨m', hreach', hm'⟩ := ih (m := given raw) (by rw [hanswer])
        rw [hanswer] at hreach'
        exact ⟨m', hreach.trans (.head ⟨_, hmove, .given hanswer⟩ hreach'), hm'⟩
  | @poll next d c c' _ ih =>
    obtain ⟨m₁, move, hreach, hmove, hopens⟩ := exists_opens context c hd
    cases hopens with
    | @poll stop go =>
      cases hc : c.cancelled context with
      | true =>
        obtain ⟨m', hreach', hm'⟩ := ih (m := stop) (by rw [hc]; rfl)
        exact ⟨m', hreach.trans (.head ⟨_, hmove, .stop hc⟩ hreach'), hm'⟩
      | false =>
        obtain ⟨m', hreach', hm'⟩ := ih (m := go) (by rw [hc]; rfl)
        exact ⟨m', hreach.trans (.head ⟨_, hmove, .go hc⟩ hreach'), hm'⟩

/-- A run that ends does so at a moment that it reaches. -/
theorem exists_done {report : Report} (h : (m.dialogue mode).play context c = some (report, c')) :
    ∃ m', Reaches mode context (m, c) (m', c') ∧ m'.Moves mode (.done report) := by
  obtain ⟨m₁, hreach, hm₁⟩ := exists_reaches (Dialogue.reaches_done h)
  obtain ⟨m', move, hreach', hmove, hopens⟩ := exists_opens context c' hm₁
  cases hopens with
  | done => exact ⟨m', hreach.trans hreach', hmove⟩

/-- What holds at a moment, and passes from every moment to the next, holds at all later moments. -/
theorem Reaches.invariant {P : Moment × Console → Prop} (h : Reaches mode context x y) (hx : P x)
    (hstep : ∀ x y, P x → Step mode context x y → P y) : P y := by
  induction h with
  | refl => exact hx
  | tail _ h ih => exact hstep _ _ ih h

/-- A failure comes from the moment before, or it has just been brought about. -/
theorem Step.failure (h : Step mode context x y) {e : RunError} (he : y.1.failure? = some e) :
    (x.1.failure? = some e ∧ y.2 = x.2) ∨ x.1.Raises e ∨
      (∃ name fault, e = .read name fault ∧ x.1.Executes (.read name) ∧
        x.2.answer name = (.error fault, y.2)) ∨
      (e = .canceled ∧ x.2.cancelled context = true ∧ y.2 = x.2.look) := by
  obtain ⟨move, hmove, hleads⟩ := h
  cases hleads with
  | silent =>
    rcases hmove.failure_silent he with he | he
    · exact .inl ⟨he, rfl⟩
    · exact .inr (.inl he)
  | say => cases hmove.failure_say.symm.trans he
  | given _ => cases (hmove.failure_ask.2.1 _).symm.trans he
  | refused hanswer =>
    obtain ⟨hread, -, hfailure⟩ := hmove.failure_ask
    obtain rfl := Option.some.inj ((hfailure _).symm.trans he)
    exact .inr (.inr (.inl ⟨_, _, rfl, hread, hanswer⟩))
  | stop hc =>
    obtain rfl := Option.some.inj (hmove.failure_poll.1.symm.trans he)
    exact .inr (.inr (.inr ⟨rfl, hc, rfl⟩))
  | go _ => cases hmove.failure_poll.2.symm.trans he

end Moment

/-- The console `c` is the one at the end of a run of `s`, which is recorded as `r` and leaves the
session `s'`. -/
structure Console.Closes (c : Console) (s : Session) (r : RunRecord) (s' : Session) : Prop where
  outputs : r.outputs = c.outputs.toList
  requests : r.requests = c.requests.toList
  queue : s'.queue = c.queue
  asked : s'.asked = c.asked
  provider : s.provider = c.provider
  prompt : s.prompt = c.prompt

/-- A run of the session passes the moment `x.1`, and the console is `x.2` then. -/
def Session.Passes (s : Session) (context : Context) (n : Nat) (x : Moment × Console) : Prop :=
  Moment.Reaches s.mode context (.start s.program n, s.console) x

namespace Session

variable {s s' : Session} {context : Context} {n : Nat}

/-- The moments of a run are the points of its dialogue. -/
theorem reaches_iff_passes {d : Dialogue Report} {c : Console} :
    (s.program.dialogue s.mode n).Reaches context s.console d c ↔
      ∃ m, s.Passes context n (m, c) ∧ m.dialogue s.mode = d := by
  rw [← Moment.dialogue_start]
  constructor
  · intro h
    exact Moment.exists_reaches h
  · rintro ⟨m, hpasses, rfl⟩
    exact Moment.Reaches.dialogue hpasses

/-- A run that ends has a last moment, with what it leaves behind. -/
theorem exists_last {r : RunRecord} (h : s.run context n = some (r, s')) :
    ∃ c : Console, c.Closes s r s' ∧
      s.Passes context n (⟨.finished r.result, s'.globals, s'.functions⟩, c) ∧
      ∀ x, s.Passes context n x →
        Moment.Reaches s.mode context x (⟨.finished r.result, s'.globals, s'.functions⟩, c) := by
  obtain ⟨⟨report, c⟩, hplay, hend⟩ := Option.map_eq_some_iff.mp h
  obtain ⟨rfl, rfl⟩ := Prod.mk.inj hend
  have hadvances := Dialogue.play_advances _ hplay
  -- From every moment that it passes the run goes on to the same end.
  have hlast : ∀ x, s.Passes context n x → Moment.Reaches s.mode context x
      (⟨.finished report.result, report.globals, report.functions⟩, c) := by
    intro x hx
    have hrest : (x.1.dialogue s.mode).play context x.2 = some (report, c) :=
      (Moment.Reaches.dialogue hx).play.symm.trans hplay
    obtain ⟨m, hreach, hmove⟩ := Moment.exists_done hrest
    cases hmove with
    | finished => exact hreach
  exact ⟨c, ⟨rfl, rfl, rfl, rfl, hadvances.provider.symm, hadvances.prompt.symm⟩, hlast _ .refl,
    hlast⟩

end Session

end Scriptlet
