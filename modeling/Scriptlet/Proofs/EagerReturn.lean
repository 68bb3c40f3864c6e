import Scriptlet.Proofs.SideBySide

/-!
# Scriptlet.Proofs.EagerReturn — when a returned expression is evaluated

The interpreter carries the expression of a `return` unevaluated to the call that it ends.  `Eager`
is an interpreter that evaluates the expression where the `return` stands and carries its value.  In
`propagate` mode the two hold the same dialogues (`return_evaluated_on_the_spot`), unless a `return`
stands at the top level or in the head of a `for`.  There the interpreter drops it unevaluated.

The evaluation of the expression may take part in the dialogue, define functions and fail, and in the
two interpreters it happens at different times.  So they are not related by the values they yield,
but by what they go on with: `Continuation.Carries` says that the eager one goes on with the value of
an expression as the other one does with the expression.  Between the `return` and the call there is
nothing but ends of blocks, and none of them does anything with the frame.  All other steps are the
same in both, and are compared as such (`Action.InStep`).
-/

namespace Scriptlet

open Scriptlet.Action

/-! ### An interpreter that evaluates at once -/

/-- How a statement ends if `return` evaluates its expression. -/
inductive Outcome where
  /-- Go on with the next statement. -/
  | next
  /-- Return from the function. -/
  | return (value : Value)

namespace Eager

variable {ρ : Type}

mutual

/-- Execute a statement, `depth` calls deep.  A `return` evaluates its expression in the current
frame by `evaluate`, which the call that is running supplies with the steps that it has left. -/
def exec : Nat → (evaluate : Expr → Action ρ Value) → (depth : Nat) → Stmt → Action ρ Outcome
  | 0, _, _, _ => cut
  | n + 1, evaluate, depth, s =>
    match s with
    | .declare name value => do
      assign name (← eval n depth value)
      return .next
    | .assign name value => do
      assign name (← eval n depth value)
      return .next
    | .print operand => do
      say ((← frame).shown operand)
      return .next
    | .read name => do
      assign name (.ofInput (← ask name))
      return .next
    | .ite cond body alternative => do
      if cond.holds (← frame) then execList n evaluate depth body
      else match alternative with
        | some body' => execList n evaluate depth body'
        | none => return .next
    | .while cond body => loop n evaluate depth cond body none
    | .for init cond step body => do
      let _ ← exec n evaluate depth init
      loop n evaluate depth cond body (some step)
    | .fun name params body => do
      define name ⟨params, body⟩
      return .next
    | .call name args => do
      let _ ← call n depth name args
      return .next
    | .return value => return .return (← evaluate value)
    | .absent => fail .unsupportedStatement
termination_by structural n => n

/-- Execute statements up to the first `return`. -/
def execList :
    Nat → (evaluate : Expr → Action ρ Value) → (depth : Nat) → List Stmt → Action ρ Outcome
  | 0, _, _, _ => cut
  | _ + 1, _, _, [] => return .next
  | n + 1, evaluate, depth, s :: ss => do
    checkpoint
    match ← exec n evaluate depth s with
    | .next => execList n evaluate depth ss
    | .return value => return .return value
termination_by structural n => n

/-- Repeat a body, and the step after it, while a condition holds. -/
def loop : Nat → (evaluate : Expr → Action ρ Value) → (depth : Nat) → Condition → List Stmt →
    Option Stmt → Action ρ Outcome
  | 0, _, _, _, _, _ => cut
  | n + 1, evaluate, depth, cond, body, step => do
    if cond.holds (← frame) then
      match ← execList n evaluate depth body with
      | .return value => return .return value
      | .next =>
        checkpoint
        match step with
        | none => loop n evaluate depth cond body step
        | some s =>
          let _ ← exec n evaluate depth s
          loop n evaluate depth cond body step
    else return .next
termination_by structural n => n

/-- Evaluate an expression. -/
def eval : Nat → (depth : Nat) → Expr → Action ρ Value
  | 0, _, _ => cut
  | n + 1, depth, e =>
    match e with
    | .int i => return .ofInt i
    | .str t => return .text t
    | .binary left op right => do
      let f ← frame
      return .binary op (f.operand left) (f.operand right)
    | .call name args => call n depth name args
    | .absent => fail .unsupportedExpression
termination_by structural n => n

/-- Call a function.  The value is what its body returns, and undefined without a `return`. -/
def call : Nat → (depth : Nat) → Token → List Token → Action ρ Value
  | 0, _, _, _ => cut
  | n + 1, depth, name, args => do
    match (← functions).get? name with
    | none => fail (.functionNotFound name)
    | some f =>
      if maxCallDepth ≤ depth then fail (.callDepth name)
      else
        let caller ← frame
        within (.ofCall f.params (args.map caller.argument)) do
          match ← execList n (eval n (depth + 1)) (depth + 1) f.body with
          | .next => return .undefined
          | .return value => return value
termination_by structural n => n

end

/-- Execute the statements of the top level. -/
def execTop (n : Nat) : List Stmt → Action ρ Unit
  | [] => return ()
  | s :: ss => do
    checkpoint
    let _ ← exec n (eval n 0) 0 s
    execTop n ss

end Eager

/-- The dialogue of a program whose returns are evaluated at once. -/
def Program.eagerDialogue (p : Program) (n : Nat) : Dialogue Report :=
  Eager.execTop n p ⟨∅, ∅⟩ fun result s => .done ⟨result, s.frame, s.functions⟩

/-- Run the program of a session, evaluating its returns at once. -/
def Session.runEager (s : Session) (context : Context) (n : Nat) : Option (RunRecord × Session) :=
  ((s.program.eagerDialogue n).play context s.console).map fun (report, c) =>
    (⟨report.result, c.outputs.toList, c.requests.toList⟩,
      { s with
        queue := c.queue
        asked := c.asked
        globals := report.globals
        functions := report.functions })

/-! ### Heads of loops -/

mutual

def Stmt.plainHeads : Stmt → Bool
  | .ite _ body none => Program.plainHeads body
  | .ite _ body (some alternative) => Program.plainHeads body && Program.plainHeads alternative
  | .while _ body => Program.plainHeads body
  | .for init _ step body =>
    (init.returnless && init.plainHeads) && (step.returnless && step.plainHeads) &&
      Program.plainHeads body
  | .fun _ _ body => Program.plainHeads body
  | _ => true

/-- There is no `return` in the first part or the step of a `for`, in the program and in the bodies
of its functions, except in functions that are defined there. -/
def Program.plainHeads : Program → Bool
  | [] => true
  | s :: ss => s.plainHeads && Program.plainHeads ss

end

/-- The two functions are the same, without a `return` in the head of a `for`. -/
def Function.SamePlain (f f' : Function) : Prop := f = f' ∧ Program.plainHeads f.body

/-! ### What the two interpreters go on with -/

section Carried

variable {ρ : Type}

/-- The actions of the two interpreters have the same exchanges, on functions with plain heads. -/
abbrev Action.InStep {α β : Type} (R : α → β → Prop) (x : Action ρ α) (y : Action ρ β) : Prop :=
  Action.Alike (.exchanges Eq) Function.SamePlain R x y

/-- Both statements go on with the next one. -/
def Completion.Proceeds (c : Completion) (o : Outcome) : Prop := c = .next ∧ o = .next

/-- The two continuations go on alike, `k'` from the value of a returned expression where `k` goes on
from the expression.  If what they follow is `plain`, nothing is returned to them. -/
structure Continuation.Carries (evaluate : Expr → Action ρ Value) (plain : Bool)
    (k : Continuation ρ Completion) (k' : Continuation ρ Outcome) : Prop where
  next : ∀ s s', RunState.Alike .any Function.SamePlain s s' →
    (k (.ok .next) s).Alike Eq (k' (.ok .next) s')
  «return» : plain = false → ∀ e s s', RunState.Alike .any Function.SamePlain s s' →
    (k (.ok (.return e)) s).Alike Eq ((evaluate e >>= fun v => pure (.return v)) s' k')
  stop : ∀ e s s', RunState.Alike .any Function.SamePlain s s' →
    (k (.error e) s).Alike Eq (k' (.error e) s')

namespace Action

/-- Before continuations of which one carries the other, the two actions hold the same dialogue. -/
def Carried (evaluate : Expr → Action ρ Value) (plain : Bool) (x : Action ρ Completion)
    (y : Action ρ Outcome) : Prop :=
  ∀ s s' k k', RunState.Alike .any Function.SamePlain s s' →
    Continuation.Carries evaluate plain k k' → (x s k).Alike Eq (y s' k')

variable {α β : Type} {R : α → β → Prop} {evaluate : Expr → Action ρ Value} {plain : Bool}
  {x : Action ρ Completion} {y : Action ρ Outcome}

theorem Alike.carried (h : InStep Completion.Proceeds x y) : Carried evaluate plain x y := by
  intro s s' k k' hs hk
  refine h s s' k k' hs ⟨?_, hk.stop⟩
  rintro _ _ s s' ⟨rfl, rfl⟩ hs
  exact hk.next s s' hs

theorem Alike.bind_carried {z : Action ρ α} {w : Action ρ β} {f : α → Action ρ Completion}
    {g : β → Action ρ Outcome} (h : InStep R z w)
    (hf : ∀ a b, R a b → Carried evaluate plain (f a) (g b)) :
    Carried evaluate plain (z >>= f) (w >>= g) := by
  intro s s' k k' hs hk
  exact h s s' _ _ hs ⟨fun a b u u' hab hu => hf a b hab u u' k k' hu hk, hk.stop⟩

theorem carried_frame_bind {f : Frame → Action ρ Completion} {g : Frame → Action ρ Outcome}
    (h : ∀ frame, Carried evaluate plain (f frame) (g frame)) :
    Carried evaluate plain (frame >>= f) (frame >>= g) := by
  intro s s' k k' hs hk
  show (f s.frame s k).Alike Eq (g s'.frame s' k')
  rw [hs.frame]
  exact h s'.frame s s' k k' hs hk

theorem carried_return (e : Expr) : Carried evaluate false (pure (.return e))
    (evaluate e >>= fun v => pure (.return v)) := fun s s' _ _ hs hk => hk.return rfl e s s' hs

/-- A value that is returned is handed on, and what follows is left out. -/
theorem Carried.bind (h : Carried evaluate plain x y) {f : Completion → Action ρ Completion}
    {g : Outcome → Action ρ Outcome} (hnext : Carried evaluate plain (f .next) (g .next))
    (hf : ∀ e, f (.return e) = pure (.return e)) (hg : ∀ v, g (.return v) = pure (.return v)) :
    Carried evaluate plain (x >>= f) (y >>= g) := by
  intro s s' k k' hs hk
  refine h s s' _ _ hs ⟨fun u u' hu => hnext u u' k k' hu hk, ?_, hk.stop⟩
  intro hplain e u u' hu
  have hreturn := hk.return hplain e u u' hu
  dsimp only
  rw [hf e]
  -- on the other side the value passes through `g` as it is
  rwa [bind_apply_congr (k := k') u' (fun v s => ?_) fun _ _ => rfl] at hreturn
  dsimp only [pure_apply]
  rw [hg v]
  rfl

/-- Plain statements go on side by side, or fail in the same way. -/
theorem Carried.alike (h : Carried evaluate true x y) : InStep Completion.Proceeds x y := by
  intro s s' k k' hs hk
  refine h s s' k k' hs ⟨fun u u' hu => ?_, ?_, hk.stop⟩
  · exact hk.next .next .next u u' ⟨rfl, rfl⟩ hu
  · intro hplain
    cases hplain

/-- Handing on whatever a body ends with. -/
theorem Carried.outside (h : Carried evaluate plain x y) :
    Carried evaluate plain (x >>= fun c => pure (ReturnMode.propagate.outside c)) y :=
  fun s s' _ k' hs hk => h s s' _ k' hs ⟨hk.next, hk.return, hk.stop⟩

/-- At the call the expression is evaluated on one side, and its value has arrived on the other. -/
theorem Carried.bind_value (h : Carried evaluate false x y) {f : Completion → Action ρ Value}
    {g : Outcome → Action ρ Value} (hnext : InStep Eq (f .next) (g .next))
    (hf : ∀ e, InStep Eq (f (.return e)) (evaluate e)) (hg : ∀ v, g (.return v) = pure v) :
    InStep Eq (x >>= f) (y >>= g) := by
  intro s s' k k' hs hk
  refine h s s' _ _ hs ⟨fun u u' hu => hnext u u' k k' hu hk, ?_, hk.stop⟩
  intro _ e u u' hu
  refine hf e u u' k _ hu ⟨?_, hk.stop⟩
  intro v v' s s' hv hs
  dsimp only [pure_apply]
  rw [hg v']
  exact hk.next v v' s s' hv hs

end Action

end Carried

/-! ### Through the interpreter -/

section Interpreter

variable {ρ : Type}

/-- Under the bound `n`, the parts of the two interpreters hold the same dialogues. -/
structure EagerAt (ρ : Type) (n : Nat) : Prop where
  exec : ∀ evaluate plain depth (s : Stmt), s.plainHeads → (plain = true → s.returnless) →
    Carried evaluate plain (exec .propagate n depth s : Action ρ Completion)
      (Eager.exec n evaluate depth s)
  execList : ∀ evaluate plain depth (ss : Program), ss.plainHeads → (plain = true → ss.returnless) →
    Carried evaluate plain (execList .propagate n depth ss : Action ρ Completion)
      (Eager.execList n evaluate depth ss)
  loop : ∀ evaluate plain depth cond (body : Program) (step : Option Stmt),
    body.plainHeads → (plain = true → body.returnless) →
    (∀ s ∈ step, s.plainHeads ∧ s.returnless) →
    Carried evaluate plain (loop .propagate n depth cond body step : Action ρ Completion)
      (Eager.loop n evaluate depth cond body step)
  eval : ∀ depth e, InStep Eq
    (eval .propagate n depth e : Action ρ Value) (Eager.eval n depth e)
  call : ∀ depth name args, InStep Eq
    (call .propagate n depth name args : Action ρ Value) (Eager.call n depth name args)

variable {n : Nat} {evaluate : Expr → Action ρ Value} {plain : Bool}

theorem carried_next : Carried evaluate plain (pure .next) (pure .next) :=
  (alike_pure ⟨rfl, rfl⟩).carried

theorem carried_exec (h : EagerAt ρ n) (depth : Nat) {s : Stmt} (hs : s.plainHeads)
    (hplain : plain = true → s.returnless) :
    Carried evaluate plain (exec .propagate (n + 1) depth s : Action ρ Completion)
      (Eager.exec (n + 1) evaluate depth s) := by
  cases s with
  | declare name value =>
    refine (h.eval depth value).bind_carried fun v v' hv => ?_
    subst hv
    exact (alike_assign name v.over_any).bind_carried fun _ _ _ => carried_next
  | assign name value =>
    refine (h.eval depth value).bind_carried fun v v' hv => ?_
    subst hv
    exact (alike_assign name v.over_any).bind_carried fun _ _ _ => carried_next
  | print operand =>
    exact carried_frame_bind fun f => (alike_say trivial).bind_carried fun _ _ _ => carried_next
  | read name =>
    refine (alike_ask trivial).bind_carried ?_
    rintro raw _ ⟨rfl, -⟩
    exact (alike_assign name (Value.over_any _)).bind_carried fun _ _ _ => carried_next
  | ite cond body alternative =>
    refine carried_frame_bind fun f => ?_
    cases alternative with
    | none =>
      simp only [Stmt.plainHeads, Stmt.returnless] at hs hplain
      split
      · exact (h.execList evaluate plain depth body hs hplain).outside
      · exact carried_next
    | some body' =>
      simp only [Stmt.plainHeads, Stmt.returnless, Bool.and_eq_true] at hs hplain
      split
      · exact (h.execList evaluate plain depth body hs.1 fun hp => (hplain hp).1).outside
      · exact (h.execList evaluate plain depth body' hs.2 fun hp => (hplain hp).2).outside
  | «while» cond body =>
    simp only [Stmt.plainHeads, Stmt.returnless] at hs hplain
    exact h.loop evaluate plain depth cond body none hs hplain nofun
  | «for» init cond step body =>
    simp only [Stmt.plainHeads, Stmt.returnless, Bool.and_eq_true] at hs hplain
    obtain ⟨⟨⟨hinit, hinits⟩, hstep, hsteps⟩, hbody⟩ := hs
    -- whatever the first part ends with is dropped, and it is no `return`
    refine (h.exec evaluate true depth init hinits fun _ => hinit).alike.bind_carried fun _ _ _ => ?_
    refine h.loop evaluate plain depth cond body (some step) hbody (fun hp => (hplain hp).2) ?_
    intro s hs
    obtain rfl := Option.mem_some.1 hs
    exact ⟨hsteps, hstep⟩
  | «fun» name params body =>
    simp only [Stmt.plainHeads] at hs
    exact (alike_define name ⟨rfl, hs⟩).bind_carried fun _ _ _ => carried_next
  | call name args => exact (h.call depth name args).bind_carried fun _ _ _ => carried_next
  | «return» value =>
    cases plain with
    | true => exact absurd (hplain rfl) (by simp [Stmt.returnless])
    | false => exact carried_return value
  | absent => exact Alike.carried (alike_fail nofun trivial)

theorem carried_execList (h : EagerAt ρ n) (depth : Nat) {ss : Program} (hss : ss.plainHeads)
    (hplain : plain = true → ss.returnless) :
    Carried evaluate plain (execList .propagate (n + 1) depth ss : Action ρ Completion)
      (Eager.execList (n + 1) evaluate depth ss) := by
  cases ss with
  | nil => exact carried_next
  | cons s ss =>
    simp only [Program.plainHeads, Program.returnless, Bool.and_eq_true] at hss hplain
    refine alike_checkpoint.bind_carried fun _ _ _ => ?_
    refine (h.exec evaluate plain depth s hss.1 fun hp => (hplain hp).1).bind ?_ (fun _ => rfl)
      fun _ => rfl
    exact h.execList evaluate plain depth ss hss.2 fun hp => (hplain hp).2

theorem carried_loop (h : EagerAt ρ n) (depth : Nat) (cond : Condition) {body : Program}
    {step : Option Stmt} (hbody : body.plainHeads) (hplain : plain = true → body.returnless)
    (hstep : ∀ s ∈ step, s.plainHeads ∧ s.returnless) :
    Carried evaluate plain (loop .propagate (n + 1) depth cond body step : Action ρ Completion)
      (Eager.loop (n + 1) evaluate depth cond body step) := by
  have hloop := h.loop evaluate plain depth cond body step hbody hplain hstep
  refine carried_frame_bind fun f => ?_
  split
  · refine (h.execList evaluate plain depth body hbody hplain).bind ?_ (fun _ => rfl) fun _ => rfl
    refine alike_checkpoint.bind_carried fun _ _ _ => ?_
    cases step with
    | none => exact hloop
    | some s =>
      obtain ⟨hs, hs'⟩ := hstep s rfl
      exact (h.exec evaluate true depth s hs fun _ => hs').alike.bind_carried fun _ _ _ => hloop
  · exact carried_next

theorem eager_eval (h : EagerAt ρ n) (depth : Nat) (e : Expr) :
    InStep Eq (eval .propagate (n + 1) depth e : Action ρ Value)
      (Eager.eval (n + 1) depth e) := by
  cases e with
  | int i => exact alike_pure rfl
  | str t => exact alike_pure rfl
  | binary left op right => exact alike_frame_bind fun f _ => alike_pure rfl
  | call name args => exact h.call depth name args
  | absent => exact alike_fail nofun trivial

/-- The eager body evaluates returned expressions as this call does after its body. -/
theorem eager_call (h : EagerAt ρ n) (depth : Nat) (name : Token) (args : List Token) :
    InStep Eq (call .propagate (n + 1) depth name args : Action ρ Value)
      (Eager.call (n + 1) depth name args) := by
  refine alike_functions_bind fun t t' ht => ?_
  have hfound := ht.get? name
  generalize t.get? name = found at hfound ⊢
  generalize t'.get? name = found' at hfound ⊢
  cases hfound with
  | none => exact alike_fail nofun trivial
  | @some f _ hf =>
    obtain ⟨rfl, hheads⟩ := hf
    dsimp only
    split
    · exact alike_fail nofun trivial
    · refine alike_frame_bind fun caller _ => ?_
      refine Alike.within (Frame.all_ofCall f.params fun v _ => v.over_any) ?_
      refine (h.execList (Eager.eval n (depth + 1)) false (depth + 1) f.body hheads
        (absurd · Bool.false_ne_true)).bind_value (alike_pure rfl) (fun e => ?_) fun _ => rfl
      exact h.eval (depth + 1) e

/-- By induction on the bound. -/
theorem eagerAt (n : Nat) : EagerAt ρ n := by
  induction n with
  | zero =>
    exact ⟨fun _ _ _ _ _ _ => alike_cut.carried, fun _ _ _ _ _ _ => alike_cut.carried,
      fun _ _ _ _ _ _ _ _ _ => alike_cut.carried, fun _ _ => alike_cut, fun _ _ _ => alike_cut⟩
  | succ n ih =>
    exact ⟨fun _ _ depth _ hs hplain => carried_exec ih depth hs hplain,
      fun _ _ depth _ hss hplain => carried_execList ih depth hss hplain,
      fun _ _ depth cond _ _ hbody hplain hstep => carried_loop ih depth cond hbody hplain hstep,
      eager_eval ih, eager_call ih⟩

theorem eager_execTop (n : Nat) {ss : Program} (hss : ss.plainHeads) (hplain : ss.returnless) :
    InStep Eq (execTop .propagate n ss : Action ρ Unit)
      (Eager.execTop n ss) := by
  induction ss with
  | nil => exact alike_pure rfl
  | cons s ss ih =>
    simp only [Program.plainHeads, Program.returnless, Bool.and_eq_true] at hss hplain
    exact alike_checkpoint.bind fun _ _ _ =>
      ((eagerAt n).exec _ true 0 s hss.1 fun _ => hplain.1).alike.bind fun _ _ _ =>
        ih hss.2 hplain.2

end Interpreter

theorem Program.dialogue_eager {p : Program} (hplain : p.returnless) (hheads : p.plainHeads)
    (n : Nat) : p.eagerDialogue n = p.dialogue .propagate n :=
  ((eager_execTop n hheads hplain).report_eq fun _ _ h => h.1).symm

/-- **A returned expression may be evaluated on the spot.**  Let `p` have no `return` outside its
functions and none in the head of a `for`.  Then the interpreter, which carries the expression of a
`return` to the call, and the one that evaluates it at the `return` hold the same dialogue.  So in
every session for `p` in `propagate` mode, whatever its queue and provider are and whenever the run
is cancelled, the two runs are the same: in their result, their lines and requests, and in the queue,
variables and functions that they leave. -/
theorem return_evaluated_on_the_spot {p : Program} (hplain : p.returnless) (hheads : p.plainHeads) :
    (∀ n, p.eagerDialogue n = p.dialogue .propagate n) ∧
      ∀ (s : Session) (context : Context) (n : Nat), s.program = p → s.mode = .propagate →
        s.runEager context n = s.run context n := by
  refine ⟨Program.dialogue_eager hplain hheads, fun s context n hs hmode => ?_⟩
  subst hs
  rw [Session.runEager, Session.run, Program.dialogue_eager hplain hheads, hmode]

/-- The expression that is returned from within a loop and a conditional reads and prints. -/
theorem return_evaluated_on_the_spot_nested :
    let x := utf8 "x"
    let y := utf8 "y"
    let f := utf8 "f"
    let g := utf8 "g"
    let p : Program :=
      [.fun g [] [.read x, .print x, .return (.binary x (utf8 "+") x)],
        .fun f [y] [.while ⟨y, utf8 "<", utf8 "3"⟩
          [.ite ⟨y, utf8 "==", y⟩ [.return (.call g [])] none, .print y]],
        .declare y (.call f [utf8 "1"]), .print y]
    let s := ((Session.new p).setReturnMode .propagate).enqueue [utf8 "4", utf8 "5"]
    p.returnless ∧ p.plainHeads ∧
      (s.runEager .never 12).map (·.1.outputs) = some [⟨utf8 "4", false⟩, ⟨utf8 "8", false⟩] ∧
      s.runEager .never 12 = s.run .never 12 := by
  intro x y f g p s
  have hplain : p.returnless := rfl
  have hheads : p.plainHeads := rfl
  exact ⟨hplain, hheads, by decide +kernel,
    (return_evaluated_on_the_spot hplain hheads).2 s .never 12 rfl rfl⟩

/-- At the top level, and in the head of a `for`, the expression of a `return` is not evaluated. -/
example :
    let x := utf8 "x"
    let f := utf8 "f"
    let call := Stmt.return (.call f [])
    ∀ s ∈ [call, .for call ⟨x, utf8 "!=", x⟩ call []],
      let p : Program := [.fun f [] [.print x], s]
      let t := (Session.new p).setReturnMode .propagate
      (t.runEager .never 9).map (·.1.outputs) ≠ (t.run .never 9).map (·.1.outputs) := by
  decide +kernel

end Scriptlet
