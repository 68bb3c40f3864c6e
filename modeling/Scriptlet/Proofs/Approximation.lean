import Scriptlet.Run.Session

/-!
# Scriptlet.Proofs.Approximation — following a run further

A bound on the number of steps cuts the dialogue of a program off in places.  `d.Further w d'` says
that `d'` is `d` with something else in the place of some cuts, and that in `d'` the watch `w` finds
what it asks for after each effect, which is a line of output or an answer, and after each piece of
bad news, which is a refused request or a cancellation.  The interpreter with a larger bound follows
the same run further (`dialogue_further`), whatever the watch asks for.

* With nothing asked for, this is monotonicity: a run that is over stays as it is under every larger
  bound (`Session.run_further`).
* With a watch on what follows an effect, this says how a run goes on right after it.  One more step
  is enough for that, since an effect is reached only with a step to spare.
* With a watch on what follows bad news, this says that the run stops there with the error.

The two runs have different bounds, so that what they have in common depends on the steps that are
left, in contrast to a comparison of runs under one bound.
-/

namespace Scriptlet

variable {ρ α β : Type}

/-- What is asked of dialogues: `after` of what follows an effect, and `stop e` of what follows the
failure `e`.  A look at whether the run is cancelled may always follow an effect. -/
structure Watch (ρ : Type) where
  after : Dialogue ρ → Prop
  stop : RunError → Dialogue ρ → Prop
  after_poll : ∀ {next : Bool → Dialogue ρ}, stop .canceled (next true) → after (.poll next)

/-- The watch that asks for nothing. -/
def Watch.idle : Watch ρ := ⟨fun _ => True, fun _ _ => True, fun _ => trivial⟩

namespace Dialogue

/-- `d'` follows the same run as `d`, and perhaps further. -/
inductive Further (w : Watch ρ) : Dialogue ρ → Dialogue ρ → Prop
  | cut {d' : Dialogue ρ} : Further w .cut d'
  | done {result : ρ} : Further w (.done result) (.done result)
  | say {text : Text} {d d' : Dialogue ρ} (h : Further w d d') (hw : w.after d') :
    Further w (.say text d) (.say text d')
  | ask {name : Token} {f f' : Answer → Dialogue ρ} (h : ∀ a, Further w (f a) (f' a))
    (hw : ∀ raw, w.after (f' (.ok raw)))
    (hstop : ∀ fault, w.stop (.read name fault) (f' (.error fault))) :
    Further w (.ask name f) (.ask name f')
  | poll {f f' : Bool → Dialogue ρ} (h : ∀ b, Further w (f b) (f' b))
    (hstop : w.stop .canceled (f' true)) : Further w (.poll f) (.poll f')

/-- A dialogue that is held to its end is held in the same way when it is followed further. -/
theorem Further.play {w : Watch ρ} {d d' : Dialogue ρ} (h : d.Further w d') (context : Context)
    {c : Console} {x : ρ × Console} (hd : d.play context c = some x) :
    d'.play context c = some x := by
  induction h generalizing c with
  | cut => cases hd
  | done => exact hd
  | say _ _ ih => exact ih hd
  | ask _ _ _ ih => exact ih _ hd
  | poll _ _ ih => exact ih _ hd

/-- The run is over, with the error `e`. -/
def FailsWith (e : RunError) (d : Dialogue Report) : Prop :=
  ∃ report, d = .done report ∧ report.result = .error e

end Dialogue

/-! ### Actions -/

/-- What an action is given to go on with. -/
abbrev Continuation (ρ α : Type) : Type := Except RunError α → RunState → Dialogue ρ

/-- `k` does what `w` asks for, after a failure and after an effect followed by a `good` value. -/
structure Watch.Admits (w : Watch ρ) (good : α → Prop) (k : Continuation ρ α) : Prop where
  after : ∀ a s, good a → w.after (k (.ok a) s)
  stop : ∀ e s, w.stop e (k (.error e) s)

namespace Action

/-- Two ways to go on after an action are the same if they agree on all values and failures. -/
theorem bind_apply_congr {γ : Type} {x : Action ρ α} {f : α → Action ρ β} {g : α → Action ρ γ}
    (s : RunState) {k : Continuation ρ β} {k' : Continuation ρ γ}
    (hok : ∀ a s, f a s k = g a s k') (herror : ∀ e s, k (.error e) s = k' (.error e) s) :
    (x >>= f) s k = (x >>= g) s k' := by
  rw [bind_apply, bind_apply]
  congr 1
  funext r s'
  cases r with
  | ok a => exact hok a s'
  | error e => exact herror e s'

/-- `x'` follows the same run as `x`, and perhaps further.  After an effect it yields a value in
`good`, unless it looks first whether the run is cancelled. -/
def Further (w : Watch ρ) (good : α → Prop) (x x' : Action ρ α) : Prop :=
  ∀ s k k', (∀ r s, (k r s).Further w (k' r s)) → w.Admits good k' →
    Dialogue.Further w (x s k) (x' s k')

/-- Right after an effect, `x` does what the watch asks for. -/
def Quiet (w : Watch ρ) (good : α → Prop) (x : Action ρ α) : Prop :=
  ∀ s k, w.Admits good k → w.after (x s k)

variable {w : Watch ρ} {good : α → Prop} {good' : β → Prop}

theorem further_cut (x' : Action ρ α) : Further w good cut x' := fun _ _ _ _ _ => .cut

theorem further_pure (a : α) : Further w good (pure a) (pure a) := fun s _ _ hk _ => hk (.ok a) s

theorem further_fail (e : RunError) : Further w good (fail e) (fail e) := fun s _ _ hk _ =>
  hk (.error e) s

theorem further_checkpoint :
    Further w (fun _ => False) (checkpoint : Action ρ Unit) checkpoint := by
  intro s k k' hk hadmits
  refine .poll (fun b => ?_) (hadmits.stop .canceled s)
  cases b with
  | false => exact hk (.ok ()) s
  | true => exact hk (.error .canceled) s

theorem Further.bind {x x' : Action ρ α} {f f' : α → Action ρ β} (hx : Further w good x x')
    (hf : ∀ a, Further w good' (f a) (f' a)) (hq : ∀ a, good a → Quiet w good' (f' a)) :
    Further w good' (x >>= f) (x' >>= f') := by
  intro s k k' hk hadmits
  refine hx s _ _ (fun r s' => ?_) ⟨fun a s' ha => hq a ha s' k' hadmits, hadmits.stop⟩
  cases r with
  | ok a => exact hf a s' k k' hk hadmits
  | error e => exact hk (.error e) s'

theorem Further.within {x x' : Action ρ α} (f : Frame) (hx : Further w good x x') :
    Further w good (within f x) (within f x') := fun _ _ _ hk hadmits =>
  hx _ _ _ (fun _ _ => hk _ _) ⟨fun _ _ ha => hadmits.after _ _ ha, fun _ _ => hadmits.stop _ _⟩

/-- What depends on the variables or on the functions is compared for each of their values. -/
theorem further_frame_bind {f f' : Frame → Action ρ β} (h : ∀ a, Further w good' (f a) (f' a)) :
    Further w good' (frame >>= f) (frame >>= f') := fun s => h s.frame s

theorem further_functions_bind {f f' : FunctionTable → Action ρ β}
    (h : ∀ a, Further w good' (f a) (f' a)) :
    Further w good' (functions >>= f) (functions >>= f') := fun s => h s.functions s

theorem quiet_pure {a : α} (ha : good a) : Quiet w good (pure a) := fun s _ hadmits =>
  hadmits.after a s ha

theorem quiet_checkpoint_bind (f : Unit → Action ρ β) : Quiet w good' (checkpoint >>= f) :=
  fun s _ hadmits => w.after_poll (hadmits.stop .canceled s)

theorem quiet_frame_bind {f : Frame → Action ρ β} (h : ∀ a, Quiet w good' (f a)) :
    Quiet w good' (frame >>= f) := fun s => h s.frame s

theorem Quiet.bind {x : Action ρ α} {f : α → Action ρ β} (hx : Quiet w good x)
    (hf : ∀ a, good a → Quiet w good' (f a)) : Quiet w good' (x >>= f) := fun s k hadmits =>
  hx s _ ⟨fun a s' ha => hf a ha s' k hadmits, hadmits.stop⟩

end Action

/-! ### The interpreter -/

open Scriptlet.Action

section Interpreter

variable {w : Watch ρ} {mode : ReturnMode}

theorem quiet_execList {m : Nat} (hm : 1 ≤ m) (depth : Nat) (ss : List Stmt) :
    Quiet w (· = .next) (execList mode m depth ss) := by
  obtain ⟨m, rfl⟩ := Nat.exists_eq_add_of_le' hm
  cases ss with
  | nil => exact quiet_pure rfl
  | cons s ss => exact quiet_checkpoint_bind _

theorem quiet_loop {m : Nat} (hm : 2 ≤ m) (depth : Nat) (cond : Condition) (body : List Stmt)
    (step : Option Stmt) : Quiet w (· = .next) (loop mode m depth cond body step) := by
  obtain ⟨m, rfl⟩ := Nat.exists_eq_add_of_le' hm
  refine quiet_frame_bind fun f => ?_
  split
  · refine (quiet_execList (Nat.le_add_left 1 m) depth body).bind ?_
    rintro _ rfl
    cases mode <;> exact quiet_checkpoint_bind _
  · exact quiet_pure rfl

/-- The parts of the interpreter under the bound `m` follow the same runs as under the bound `n`. -/
structure FurtherAt (w : Watch ρ) (mode : ReturnMode) (n m : Nat) : Prop where
  exec : ∀ depth s, Further w (· = .next) (exec mode n depth s) (exec mode m depth s)
  execList : ∀ depth ss, Further w (· = .next) (execList mode n depth ss) (execList mode m depth ss)
  loop : ∀ depth cond body step, Further w (· = .next) (loop mode n depth cond body step)
    (loop mode m depth cond body step)
  eval : ∀ depth e, Further w (fun _ => True) (eval mode n depth e) (eval mode m depth e)
  call : ∀ depth name args, Further w (fun _ => True) (call mode n depth name args)
    (call mode m depth name args)

variable {n m : Nat}

/-- A statement before a loop, which is the first part or the step of a `for`. -/
theorem further_exec_loop (h : FurtherAt w mode n m) (hnm : n < m) (depth : Nat) (s : Stmt)
    (cond : Condition) (body : List Stmt) (step : Option Stmt) :
    Further w (· = .next) (exec mode n depth s >>= fun _ => loop mode n depth cond body step)
      (exec mode m depth s >>= fun _ => loop mode m depth cond body step) := by
  cases n with
  | zero => exact further_cut _
  | succ n =>
    -- an effect in `s` takes a step, so that two are left for the loop
    exact (h.exec depth s).bind (fun _ => h.loop depth cond body step)
      fun _ _ => quiet_loop (by omega) depth cond body step

theorem further_body (h : FurtherAt w mode n m) (depth : Nat) (ss : List Stmt) :
    Further w (· = .next) (execList mode n depth ss >>= fun c => pure (mode.outside c))
      (execList mode m depth ss >>= fun c => pure (mode.outside c)) := by
  refine (h.execList depth ss).bind (fun _ => further_pure _) ?_
  rintro _ rfl
  cases mode <;> exact quiet_pure rfl

theorem further_exec (h : FurtherAt w mode n m) (hnm : n < m) (depth : Nat) (s : Stmt) :
    Further w (· = .next) (exec mode (n + 1) depth s) (exec mode (m + 1) depth s) := by
  cases s with
  | declare name value | assign name value =>
    exact (h.eval depth value).bind (fun _ _ _ _ hk _ => hk _ _)
      fun _ _ _ _ hadmits => hadmits.after _ _ rfl
  | print operand => exact fun _ _ _ hk hadmits => .say (hk _ _) (hadmits.after _ _ rfl)
  | read name =>
    intro s k k' hk hadmits
    refine .ask (fun a => ?_) (fun raw => hadmits.after _ _ rfl) fun fault => hadmits.stop _ _
    cases a with
    | ok raw => exact hk _ _
    | error fault => exact hk _ _
  | ite cond body alternative =>
    refine further_frame_bind fun f => ?_
    split
    · exact further_body h depth body
    · cases alternative with
      | some body' => exact further_body h depth body'
      | none => exact further_pure _
  | «while» cond body => exact h.loop depth cond body none
  | «for» init cond step body => exact further_exec_loop h hnm depth init cond body (some step)
  | «fun» name params body => exact fun _ _ _ hk _ => hk _ _
  | call name args =>
    exact (h.call depth name args).bind (fun _ => further_pure _) fun _ _ => quiet_pure rfl
  | «return» value => exact further_pure _
  | absent => exact further_fail _

theorem further_execList (h : FurtherAt w mode n m) (hnm : n < m) (depth : Nat) (ss : List Stmt) :
    Further w (· = .next) (execList mode (n + 1) depth ss) (execList mode (m + 1) depth ss) := by
  cases ss with
  | nil => exact further_pure _
  | cons s ss =>
    refine further_checkpoint.bind (fun _ => (h.exec depth s).bind (fun c => ?_) ?_) nofun
    · cases c with
      | next => exact h.execList depth ss
      | «return» value => exact further_pure _
    · rintro _ rfl
      exact quiet_execList (by omega) depth ss

theorem further_loop (h : FurtherAt w mode n m) (hnm : n < m) (depth : Nat) (cond : Condition)
    (body : List Stmt) (step : Option Stmt) :
    Further w (· = .next) (loop mode (n + 1) depth cond body step)
      (loop mode (m + 1) depth cond body step) := by
  refine further_frame_bind fun f => ?_
  split
  · refine (h.execList depth body).bind (fun c => ?_) ?_
    · cases mode.outside c with
      | «return» value => exact further_pure _
      | next =>
        refine further_checkpoint.bind (fun _ => ?_) nofun
        cases step with
        | none => exact h.loop depth cond body none
        | some s => exact further_exec_loop h hnm depth s cond body (some s)
    · rintro _ rfl
      cases mode <;> exact quiet_checkpoint_bind _
  · exact further_pure _

theorem further_eval (h : FurtherAt w mode n m) (depth : Nat) (e : Expr) :
    Further w (fun _ => True) (eval mode (n + 1) depth e) (eval mode (m + 1) depth e) := by
  cases e with
  | int i => exact further_pure _
  | str t => exact further_pure _
  | binary left op right => exact further_frame_bind fun f => further_pure _
  | call name args => exact h.call depth name args
  | absent => exact further_fail _

theorem further_call (h : FurtherAt w mode n m) (depth : Nat) (name : Token) (args : List Token) :
    Further w (fun _ => True) (call mode (n + 1) depth name args)
      (call mode (m + 1) depth name args) := by
  refine further_functions_bind fun table => ?_
  split
  · exact further_fail _
  · next f _ =>
    split
    · exact further_fail _
    · refine further_frame_bind fun caller => Further.within _ ?_
      refine (h.execList (depth + 1) f.body).bind (fun c => ?_) ?_
      · cases c with
        | next => exact further_pure _
        | «return» value => exact h.eval (depth + 1) value
      · rintro _ rfl
        exact quiet_pure trivial

/-- By induction on the smaller bound. -/
theorem furtherAt (hnm : n < m) : FurtherAt w mode n m := by
  induction n generalizing m with
  | zero =>
    exact ⟨fun _ _ => further_cut _, fun _ _ => further_cut _, fun _ _ _ _ => further_cut _,
      fun _ _ => further_cut _, fun _ _ _ => further_cut _⟩
  | succ n ih =>
    obtain ⟨m, rfl⟩ := Nat.exists_eq_add_of_lt hnm
    have hlt : n < n + 1 + m := by omega
    have h := ih hlt
    exact ⟨further_exec h hlt, further_execList h hlt, further_loop h hlt, further_eval h,
      further_call h⟩

theorem quiet_execTop (ss : List Stmt) : Quiet w (fun _ => True) (execTop mode m ss) := by
  cases ss with
  | nil => exact quiet_pure trivial
  | cons s ss => exact quiet_checkpoint_bind _

theorem further_execTop (hnm : n < m) (ss : List Stmt) :
    Further w (fun _ => True) (execTop mode n ss) (execTop mode m ss) := by
  induction ss with
  | nil => exact further_pure _
  | cons s ss ih =>
    exact further_checkpoint.bind (fun _ => ((furtherAt hnm).exec 0 s).bind (fun _ => ih)
      fun _ _ => quiet_execTop ss) nofun

end Interpreter

/-- **A larger bound follows the same run further.**  What the watch `w` asks for holds at every
place that the run reaches under the smaller bound, if it holds of the end of the run. -/
theorem dialogue_further {w : Watch Report}
    (hdone : ∀ globals functions, w.after (.done ⟨.ok (), globals, functions⟩))
    (hstop : ∀ e globals functions, w.stop e (.done ⟨.error e, globals, functions⟩))
    (p : Program) (mode : ReturnMode) {n m : Nat} (hnm : n < m) :
    (p.dialogue mode n).Further w (p.dialogue mode m) :=
  further_execTop hnm p _ _ _ (fun _ _ => .done) ⟨fun _ _ _ => hdone _ _, fun e _ => hstop e _ _⟩

/-- A run that is over stays as it is under every larger bound. -/
theorem Session.run_further {s s' : Session} {context : Context} {r : RunRecord} {n m : Nat}
    (hnm : n ≤ m) (h : s.run context n = some (r, s')) : s.run context m = some (r, s') := by
  rcases Nat.eq_or_lt_of_le hnm with rfl | hlt
  · exact h
  · obtain ⟨x, hx, hr⟩ := Option.map_eq_some_iff.1 h
    have hd := dialogue_further (w := .idle) (fun _ _ => trivial) (fun _ _ _ => trivial) s.program
      s.mode hlt
    exact Option.map_eq_some_iff.2 ⟨x, hd.play context hx, hr⟩

end Scriptlet
