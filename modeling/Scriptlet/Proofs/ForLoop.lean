import Scriptlet.Proofs.CallIsolation
import Scriptlet.Proofs.History
import Scriptlet.Proofs.SideBySide

/-!
# Scriptlet.Proofs.ForLoop — `for` is its first part and then a `while`

The two kinds of loop look for a cancellation in different places and nest their parts differently,
so they do not have the same dialogues, and are compared by what they come to.  The meaning of a
statement is a relation: from which world an execution that is not cancelled ends, how it ends, and
in which world, where it does not count how often the run looked.  Meanings are composed by
`andThen`, which is associative.  A larger bound on the steps can only add to them, and the meaning
of a statement is the limit over all bounds.

* A list of statements means its statements one after the other (`Program.meaning_cons`).
* A loop means the least relation that is closed under passing once more (`loopMeaning_eq` and
  `loopMeaning_le`).  So loops whose passes mean the same are the same (`loopMeaning_congr`).
* One pass of a `for` is one pass of a `while` whose body ends with the step, which gives
  `for_means_init_while`.

A `return` in the head of a `for` is dropped, but at the end of a body it takes effect.  Statements
without a `return` go on with the next one or fail (`goesOn_exec`).
-/

namespace Scriptlet

/-! ### Relations between worlds -/

/-- All that a statement reads and changes. -/
@[ext] structure World where
  state : RunState
  console : Console

/-- From which world an execution ends how, and in which world. -/
abbrev Behavior : Type := World → Except RunError Completion → World → Prop

namespace Behavior

/-- Nothing is done. -/
def skip : Behavior := fun w r w' => r = .ok .next ∧ w' = w

/-- `P`, and if it goes on, then `Q`. -/
def andThen (P Q : Behavior) : Behavior := fun w r w' =>
  (∃ w₁, P w (.ok .next) w₁ ∧ Q w₁ r w') ∨ r ≠ .ok .next ∧ P w r w'

variable {P P' Q Q' : Behavior} {w w' : World} {r : Except RunError Completion}

theorem skip_andThen (P : Behavior) : skip.andThen P = P := by
  funext w r w'
  refine propext ⟨?_, fun h => .inl ⟨w, ⟨rfl, rfl⟩, h⟩⟩
  rintro (⟨w₁, ⟨-, rfl⟩, h⟩ | ⟨hr, hskip⟩)
  · exact h
  · exact absurd hskip.1 hr

theorem andThen_skip (P : Behavior) : P.andThen skip = P := by
  funext w r w'
  refine propext ⟨?_, fun h => ?_⟩
  · rintro (⟨w₁, h, rfl, rfl⟩ | ⟨-, h⟩)
    · exact h
    · exact h
  · by_cases hr : r = .ok .next
    · subst hr
      exact .inl ⟨w', h, rfl, rfl⟩
    · exact .inr ⟨hr, h⟩

theorem andThen_assoc (P Q R : Behavior) : (P.andThen Q).andThen R = P.andThen (Q.andThen R) := by
  funext w r w'
  refine propext ⟨?_, ?_⟩
  · rintro (⟨w₂, ⟨w₁, hP, hQ⟩ | ⟨hne, -⟩, hR⟩ | ⟨hr, ⟨w₁, hP, hQ⟩ | ⟨-, hP⟩⟩)
    · exact .inl ⟨w₁, hP, .inl ⟨w₂, hQ, hR⟩⟩
    · exact absurd rfl hne
    · exact .inl ⟨w₁, hP, .inr ⟨hr, hQ⟩⟩
    · exact .inr ⟨hr, hP⟩
  · rintro (⟨w₁, hP, ⟨w₂, hQ, hR⟩ | ⟨hr, hQ⟩⟩ | ⟨hr, hP⟩)
    · exact .inl ⟨w₂, .inl ⟨w₁, hP, hQ⟩, hR⟩
    · exact .inr ⟨hr, .inl ⟨w₁, hP, hQ⟩⟩
    · exact .inr ⟨hr, .inr ⟨hr, hP⟩⟩

theorem andThen_mono (hP : ∀ w r w', P w r w' → P' w r w') (hQ : ∀ w r w', Q w r w' → Q' w r w')
    (h : P.andThen Q w r w') : P'.andThen Q' w r w' := by
  obtain ⟨w₁, h₁, h₂⟩ | ⟨hr, h₁⟩ := h
  · exact .inl ⟨w₁, hP _ _ _ h₁, hQ _ _ _ h₂⟩
  · exact .inr ⟨hr, hP _ _ _ h₁⟩

/-- What holds under some bound. -/
def limit (x : Nat → Behavior) : Behavior := fun w r w' => ∃ n, x n w r w'

/-- What holds under a bound holds under every larger one. -/
def Growing (x : Nat → Behavior) : Prop := ∀ ⦃n m⦄, n ≤ m → ∀ ⦃w r w'⦄, x n w r w' → x m w r w'

variable {x y : Nat → Behavior}

theorem limit_succ (hx : Growing x) : limit (fun n => x (n + 1)) = limit x := by
  funext w r w'
  refine propext ⟨fun ⟨n, h⟩ => ⟨n + 1, h⟩, fun ⟨n, h⟩ => ⟨n, hx (Nat.le_succ n) h⟩⟩

theorem limit_const (P : Behavior) : limit (fun _ => P) = P := by
  funext w r w'
  exact propext ⟨fun ⟨_, h⟩ => h, fun h => ⟨0, h⟩⟩

theorem Growing.andThen (hx : Growing x) (hy : Growing y) : Growing fun n => (x n).andThen (y n) :=
  fun _ _ hnm _ _ _ h => andThen_mono (fun _ _ _ h => hx hnm h) (fun _ _ _ h => hy hnm h) h

theorem limit_andThen (hx : Growing x) (hy : Growing y) :
    limit (fun n => (x n).andThen (y n)) = (limit x).andThen (limit y) := by
  funext w r w'
  refine propext ⟨?_, ?_⟩
  · rintro ⟨n, h⟩
    exact andThen_mono (fun _ _ _ hx => ⟨n, hx⟩) (fun _ _ _ hy => ⟨n, hy⟩) h
  · rintro (⟨w₁, ⟨n, h₁⟩, m, h₂⟩ | ⟨hr, n, h₁⟩)
    · exact ⟨max n m, .inl ⟨w₁, hx (Nat.le_max_left n m) h₁, hy (Nat.le_max_right n m) h₂⟩⟩
    · exact ⟨n, .inr ⟨hr, h₁⟩⟩

end Behavior

/-! ### Actions -/

/-- The console as it is after so many looks. -/
def Console.atLook (c : Console) (looks : Nat) : Console := { c with looks }

theorem Console.answer_atLook (c : Console) (looks : Nat) (name : Token) :
    (c.atLook looks).answer name = ((c.answer name).1, (c.answer name).2.atLook looks) := by
  obtain ⟨template, echo, queue, provider, asked, outputs, requests, _⟩ := c
  cases queue with
  | cons raw rest => cases echo <;> rfl
  | nil => cases provider <;> rfl

namespace Dialogue

/-- If nothing is cancelled, the looks before do not matter. -/
theorem play_never_atLook {ρ : Type} (d : Dialogue ρ) (c : Console) (i j : Nat) :
    (d.play .never (c.atLook i)).map (fun z => (z.1, z.2.atLook j)) =
      (d.play .never c).map fun z => (z.1, z.2.atLook j) := by
  induction d generalizing c i with
  | done result => rfl
  | say text next ih => exact ih (c.emit ⟨text, false⟩) i
  | ask name next ih =>
    rw [play, play, Console.answer_atLook]
    exact ih _ _ i
  | poll next ih => exact (ih false c (i + 1)).trans (ih false c (c.looks + 1)).symm
  | cut => rfl

theorem play_andThen {ρ σ : Type} (d : Dialogue σ) (f : σ → Dialogue ρ) (context : Context)
    (c : Console) :
    (d.andThen f).play context c = (d.play context c).bind fun x => (f x.1).play context x.2 := by
  induction d generalizing c with
  | done result => rfl
  | say text next ih => exact ih _
  | ask name next ih => exact ih _ _
  | poll next ih => exact ih _ _
  | cut => rfl

end Dialogue

namespace Action

variable {ρ : Type}

/-- What an action comes to, if nothing follows it and the run is not cancelled.  The looks that it
takes are not counted. -/
def outcome (x : Action (Except RunError Completion × RunState) Completion) (w : World) :
    Option ((Except RunError Completion × RunState) × Console) :=
  ((x w.state fun r s => .done (r, s)).play .never w.console).map fun z =>
    (z.1, z.2.atLook w.console.looks)

/-- The action as a relation between worlds. -/
def meaning (x : Action (Except RunError Completion × RunState) Completion) : Behavior :=
  fun w r w' => x.outcome w = some ((r, w'.state), w'.console)

/-- After a statement that goes on, `y`. -/
def onNext (y : Action ρ Completion) : Completion → Action ρ Completion
  | .next => y
  | .return value => pure (.return value)

variable {x y : Action (Except RunError Completion × RunState) Completion}

theorem meaning_unique {w w₁ w₂ : World} {r₁ r₂ : Except RunError Completion}
    (h₁ : x.meaning w r₁ w₁) (h₂ : x.meaning w r₂ w₂) : r₁ = r₂ ∧ w₁ = w₂ := by
  have h := Option.some.inj (h₁.symm.trans h₂)
  simp only [Prod.mk.injEq] at h
  exact ⟨h.1.1, World.ext h.1.2 h.2⟩

theorem meaning_next : (pure .next : Action _ Completion).meaning = .skip := by
  funext w r w'
  refine propext ⟨fun h => ?_, ?_⟩
  · have hnext : (pure .next : Action _ Completion).meaning w (.ok .next) w := rfl
    exact meaning_unique h hnext
  · rintro ⟨rfl, rfl⟩
    rfl

theorem meaning_checkpoint_bind : (checkpoint >>= fun _ => x).meaning = x.meaning := by
  have houtcome : ∀ w, (checkpoint >>= fun _ => x).outcome w = x.outcome w := fun w =>
    Dialogue.play_never_atLook _ w.console (w.console.looks + 1) w.console.looks
  funext w r w'
  rw [meaning, meaning, houtcome]

/-- The dialogue of an action can be held by itself, and what follows depends on its end. -/
theorem Steady.play (hx : Steady x x) (w : World)
    (k : Continuation (Except RunError Completion × RunState) Completion) :
    (x w.state k).play .never w.console =
      ((x w.state fun r s => .done (r, s)).play .never w.console).bind fun z =>
        (k z.1.1 z.1.2).play .never z.2 := by
  have h := hx w.state (fun r s => .done (r, s)) fun z => k z.1 z.2
  exact (congrArg (Dialogue.play .never · w.console) h.symm).trans (Dialogue.play_andThen ..)

theorem outcome_bind_onNext (hx : Steady x x) (w : World) :
    (x >>= onNext y).outcome w = (x.outcome w).bind fun z =>
      match z.1.1 with
      | .ok .next => y.outcome ⟨z.1.2, z.2⟩
      | _ => some z := by
  rw [outcome, outcome, bind_apply, hx.play]
  cases (x w.state fun r s => .done (r, s)).play .never w.console with
  | none => rfl
  | some z =>
    obtain ⟨⟨r₁, s₁⟩, c₁⟩ := z
    match r₁ with
    | .ok .next => exact (Dialogue.play_never_atLook _ c₁ _ _).symm
    | .ok (.return value) => rfl
    | .error e => rfl

theorem meaning_bind_onNext (hx : Steady x x) :
    (x >>= onNext y).meaning = x.meaning.andThen y.meaning := by
  funext w r w'
  rw [meaning, outcome_bind_onNext hx]
  refine propext ⟨fun h => ?_, ?_⟩
  · obtain ⟨⟨⟨r₁, s₁⟩, c₁⟩, h₁, h₂⟩ := Option.bind_eq_some_iff.1 h
    match r₁ with
    | .ok .next => exact .inl ⟨⟨s₁, c₁⟩, h₁, h₂⟩
    | .ok (.return value) =>
      cases h₂
      exact .inr ⟨by simp, h₁⟩
    | .error e =>
      cases h₂
      exact .inr ⟨by simp, h₁⟩
  · rintro (⟨w₁, h₁, h₂⟩ | ⟨hr, h₁⟩)
    · rw [h₁]
      exact h₂
    · rw [h₁]
      match r with
      | .ok .next => exact absurd rfl hr
      | .ok (.return value) => rfl
      | .error e => rfl

/-- What is reached with a bound is reached with a larger one. -/
theorem Further.meaning {good : Completion → Prop} (h : Further .idle good x y) {w w' : World}
    {r : Except RunError Completion} (hx : x.meaning w r w') : y.meaning w r w' := by
  obtain ⟨z, hplay, hz⟩ := Option.map_eq_some_iff.1 hx
  refine Option.map_eq_some_iff.2 ⟨z, Dialogue.Further.play (w := .idle) ?_ .never hplay, hz⟩
  exact h w.state _ _ (fun _ _ => .done) ⟨fun _ _ _ => trivial, fun _ _ => trivial⟩

/-- `x` goes on with the next statement or fails: what would follow on a `return` does not matter. -/
def GoesOn (x : Action ρ Completion) : Prop :=
  ∀ s (k k' : Continuation ρ Completion), (∀ s, k (.ok .next) s = k' (.ok .next) s) →
    (∀ e s, k (.error e) s = k' (.error e) s) → x s k = x s k'

theorem Alike.goesOn {mode : ReturnMode} {x : Action ρ Completion}
    (h : Alike (.exchanges Eq) (Likeness.same .any mode).function (Completion.Alike .any true) x x) :
    GoesOn x := by
  intro s k k' hnext hstop
  refine Dialogue.Alike.eq (h s s k k' (RunState.alike_refl Likeness.function_same_any s) ⟨?_, ?_⟩)
  · intro c c' s s' hc hs
    rw [← hc.eq, hc.next rfl, hnext, hs.eq fun _ _ => Likeness.eq_of_function_same]
    exact Dialogue.alike_refl _
  · intro e s s' hs
    rw [hstop, hs.eq fun _ _ => Likeness.eq_of_function_same]
    exact Dialogue.alike_refl _

/-- After a statement that always goes on, anything else is as good as `onNext`. -/
theorem GoesOn.bind_eq_onNext {z : Action ρ Completion} (hz : GoesOn z)
    (f : Completion → Action ρ Completion) : z >>= f = z >>= onNext (f .next) := by
  funext s k
  exact hz s _ _ (fun _ => rfl) fun _ _ => rfl

end Action

/-! ### Statements without a `return` -/

open Scriptlet.Action

section Returnless

variable {ρ : Type} {mode : ReturnMode} {n : Nat}

theorem Program.returnless_append (ss ts : Program) :
    Program.returnless (ss ++ ts) = (Program.returnless ss && Program.returnless ts) := by
  induction ss with
  | nil => rfl
  | cons s ss ih => rw [List.cons_append, returnless, returnless, ih, Bool.and_assoc]

theorem ReturnMode.outside_next (mode : ReturnMode) : mode.outside .next = .next := by
  cases mode <;> rfl

theorem goesOn_exec (depth : Nat) {s : Stmt} (hs : s.returnless) :
    GoesOn (exec mode n depth s : Action ρ Completion) :=
  ((Likeness.interpreterAt (.exchanges Eq) (.same .any mode) n).exec true depth s s
    (Likeness.stmt_same_any fun _ => hs)).goesOn

theorem goesOn_execList (depth : Nat) {ss : Program} (hss : ss.returnless) :
    GoesOn (execList mode n depth ss : Action ρ Completion) :=
  ((Likeness.interpreterAt (.exchanges Eq) (.same .any mode) n).execList true depth ss ss
    (Likeness.block_same_any fun _ => hss)).goesOn

end Returnless

/-! ### The meaning of statements -/

section Statements

variable (mode : ReturnMode) (depth : Nat)

/-- What a statement comes to, `depth` calls deep. -/
def Stmt.meaning (s : Stmt) : Behavior := .limit fun n => (exec mode n depth s).meaning

/-- What statements come to, up to the first `return`. -/
def Program.meaning (ss : Program) : Behavior :=
  .limit fun n => (execList mode n depth ss).meaning

/-- What a loop comes to. -/
def loopMeaning (cond : Condition) (body : Program) (step : Option Stmt) : Behavior :=
  .limit fun n => (loop mode n depth cond body step).meaning

/-- What the step of a loop comes to under a bound. -/
def stepWithin (n : Nat) : Option Stmt → Behavior
  | none => .skip
  | some s => (exec mode n depth s).meaning

/-- What one pass of a loop comes to under a bound. -/
def passWithin (n : Nat) (body : Program) (step : Option Stmt) : Behavior :=
  (execList mode n depth body).meaning.andThen (stepWithin mode depth n step)

/-- What one pass of a loop comes to. -/
def passMeaning (body : Program) (step : Option Stmt) : Behavior :=
  .limit fun n => passWithin mode depth n body step

variable {mode depth}

theorem growing_of_further {x : Nat → Action (Except RunError Completion × RunState) Completion}
    {good : Completion → Prop} (h : ∀ n m, n < m → Further .idle good (x n) (x m)) :
    Behavior.Growing fun n => (x n).meaning := by
  intro n m hnm w r w' hx
  rcases Nat.eq_or_lt_of_le hnm with rfl | hlt
  · exact hx
  · exact (h n m hlt).meaning hx

theorem growing_exec (s : Stmt) : Behavior.Growing fun n => (exec mode n depth s).meaning :=
  growing_of_further fun _ _ hlt => (furtherAt hlt).exec depth s

theorem growing_execList (ss : Program) :
    Behavior.Growing fun n => (execList mode n depth ss).meaning :=
  growing_of_further fun _ _ hlt => (furtherAt hlt).execList depth ss

theorem growing_loop (cond : Condition) (body : Program) (step : Option Stmt) :
    Behavior.Growing fun n => (loop mode n depth cond body step).meaning :=
  growing_of_further fun _ _ hlt => (furtherAt hlt).loop depth cond body step

/-- An execution ends in one way only. -/
theorem Stmt.meaning_unique {s : Stmt} {w w₁ w₂ : World} {r₁ r₂ : Except RunError Completion}
    (h₁ : s.meaning mode depth w r₁ w₁) (h₂ : s.meaning mode depth w r₂ w₂) :
    r₁ = r₂ ∧ w₁ = w₂ := by
  obtain ⟨n, h₁⟩ := h₁
  obtain ⟨m, h₂⟩ := h₂
  exact Action.meaning_unique (growing_exec s (Nat.le_max_left n m) h₁)
    (growing_exec s (Nat.le_max_right n m) h₂)

theorem Program.meaning_nil : Program.meaning mode depth [] = .skip := by
  rw [Program.meaning, ← Behavior.limit_succ (growing_execList [])]
  refine Eq.trans ?_ (Behavior.limit_const .skip)
  congr 1
  funext n
  exact meaning_next

theorem Program.meaning_cons (s : Stmt) (ss : Program) :
    Program.meaning mode depth (s :: ss) =
      (s.meaning mode depth).andThen (Program.meaning mode depth ss) := by
  rw [Program.meaning, ← Behavior.limit_succ (growing_execList (s :: ss))]
  refine Eq.trans ?_ (Behavior.limit_andThen (growing_exec s) (growing_execList ss))
  congr 1
  funext n
  exact meaning_checkpoint_bind.trans (meaning_bind_onNext (steady_exec mode n depth s))

theorem Program.meaning_append (ss ts : Program) :
    Program.meaning mode depth (ss ++ ts) =
      (Program.meaning mode depth ss).andThen (Program.meaning mode depth ts) := by
  induction ss with
  | nil => rw [List.nil_append, meaning_nil, Behavior.skip_andThen]
  | cons s ss ih => rw [List.cons_append, meaning_cons, meaning_cons, ih, Behavior.andThen_assoc]

theorem Program.meaning_singleton (s : Stmt) :
    Program.meaning mode depth [s] = s.meaning mode depth := by
  rw [meaning_cons, meaning_nil, Behavior.andThen_skip]

theorem Stmt.meaning_while (cond : Condition) (body : Program) :
    (Stmt.while cond body).meaning mode depth = loopMeaning mode depth cond body none :=
  (Behavior.limit_succ (growing_exec _)).symm

theorem Stmt.meaning_for {init : Stmt} (hinit : init.returnless) (cond : Condition) (step : Stmt)
    (body : Program) :
    (Stmt.for init cond step body).meaning mode depth =
      (init.meaning mode depth).andThen (loopMeaning mode depth cond body (some step)) := by
  rw [Stmt.meaning, ← Behavior.limit_succ (growing_exec _)]
  refine Eq.trans ?_ (Behavior.limit_andThen (growing_exec init) (growing_loop cond body _))
  congr 1
  funext n
  rw [← meaning_bind_onNext (steady_exec mode n depth init)]
  exact congrArg Action.meaning ((goesOn_exec depth hinit).bind_eq_onNext _)

/-! ### Loops -/

theorem growing_pass (body : Program) (step : Option Stmt) :
    Behavior.Growing fun n => passWithin mode depth n body step := by
  refine (growing_execList body).andThen ?_
  cases step with
  | none => exact fun _ _ _ _ _ _ h => h
  | some s => exact growing_exec s

theorem passMeaning_none (body : Program) :
    passMeaning mode depth body none = body.meaning mode depth := by
  simp only [passMeaning, passWithin, stepWithin, Behavior.andThen_skip]
  rfl

theorem passMeaning_some (body : Program) (step : Stmt) :
    passMeaning mode depth body (some step) =
      (body.meaning mode depth).andThen (step.meaning mode depth) :=
  Behavior.limit_andThen (growing_execList body) (growing_exec step)

variable {cond : Condition} {body body' : Program} {step step' : Option Stmt}

/-- One more pass, under a bound. -/
theorem loop_meaning_succ (hbody : body.returnless) (hstep : ∀ s ∈ step, s.returnless) (n : Nat)
    (w : World) :
    (loop mode (n + 1) depth cond body step).meaning w =
      if cond.holds w.state.frame then
        (passWithin mode depth n body step).andThen (loop mode n depth cond body step).meaning w
      else Behavior.skip w := by
  change (ite (cond.holds w.state.frame = true) _ _ : Action _ Completion).meaning w = _
  by_cases hc : cond.holds w.state.frame = true
  · rw [if_pos hc, if_pos hc]
    rw [(goesOn_execList depth hbody).bind_eq_onNext,
      meaning_bind_onNext (steady_execList mode n depth body), passWithin,
      Behavior.andThen_assoc]
    congr 1
    rw [ReturnMode.outside_next]
    -- nothing is cancelled, so the look at it after the pass does nothing
    refine meaning_checkpoint_bind.trans ?_
    cases step with
    | none => exact (Behavior.skip_andThen _).symm
    | some s =>
      dsimp only
      rw [(goesOn_exec depth (hstep s rfl)).bind_eq_onNext,
        meaning_bind_onNext (steady_exec mode n depth s)]
      rfl
  · rw [if_neg hc, if_neg hc]
    exact congrFun meaning_next w

/-- A loop is a pass and then the loop again, or nothing. -/
theorem loopMeaning_eq (hbody : body.returnless) (hstep : ∀ s ∈ step, s.returnless) (w : World) :
    loopMeaning mode depth cond body step w =
      if cond.holds w.state.frame then
        (passMeaning mode depth body step).andThen (loopMeaning mode depth cond body step) w
      else Behavior.skip w := by
  have hlimit : loopMeaning mode depth cond body step w = fun r w' =>
      ∃ n, (loop mode (n + 1) depth cond body step).meaning w r w' :=
    congrFun (Behavior.limit_succ (growing_loop cond body step)).symm w
  simp only [hlimit, loop_meaning_succ hbody hstep]
  by_cases hc : cond.holds w.state.frame = true
  · simp only [if_pos hc]
    exact congrFun (Behavior.limit_andThen (growing_pass body step) (growing_loop cond body _)) w
  · simp only [if_neg hc]
    exact congrFun (Behavior.limit_const .skip) w

/-- What is closed under passing once more contains the loop. -/
theorem loopMeaning_le (hbody : body.returnless) (hstep : ∀ s ∈ step, s.returnless) {P : Behavior}
    (hP : ∀ w r w', (if cond.holds w.state.frame then
      (passMeaning mode depth body step).andThen P w else Behavior.skip w) r w' → P w r w')
    {w w' : World} {r : Except RunError Completion}
    (h : loopMeaning mode depth cond body step w r w') : P w r w' := by
  obtain ⟨n, h⟩ := h
  -- each pass uses up a step of the bound
  induction n generalizing w r w' with
  | zero => cases h
  | succ n ih =>
    refine hP w r w' ?_
    rw [loop_meaning_succ hbody hstep] at h
    by_cases hc : cond.holds w.state.frame = true
    · rw [if_pos hc] at h ⊢
      exact Behavior.andThen_mono (fun _ _ _ hpass => ⟨n, hpass⟩) (fun _ _ _ hloop => ih hloop) h
    · rw [if_neg hc] at h ⊢
      exact h

/-- Loops with the same condition whose passes come to the same come to the same. -/
theorem loopMeaning_congr (hbody : body.returnless) (hstep : ∀ s ∈ step, s.returnless)
    (hbody' : body'.returnless) (hstep' : ∀ s ∈ step', s.returnless)
    (hpass : passMeaning mode depth body step = passMeaning mode depth body' step') :
    loopMeaning mode depth cond body step = loopMeaning mode depth cond body' step' := by
  funext w r w'
  refine propext ⟨loopMeaning_le hbody hstep fun w r w' h => ?_,
    loopMeaning_le hbody' hstep' fun w r w' h => ?_⟩
  · rwa [loopMeaning_eq hbody' hstep', ← hpass]
  · rwa [loopMeaning_eq hbody hstep, hpass]

/-- One pass of a `for` is one pass of the `while` whose body ends with the step. -/
theorem passMeaning_some_eq_append (body : Program) (step : Stmt) :
    passMeaning mode depth body (some step) = passMeaning mode depth (body ++ [step]) none := by
  rw [passMeaning_some, passMeaning_none, Program.meaning_append, Program.meaning_singleton]

theorem Stmt.meaning_for_eq_while {init step : Stmt} (cond : Condition) {body : Program}
    (hinit : init.returnless) (hstep : step.returnless) (hbody : body.returnless) :
    (Stmt.for init cond step body).meaning mode depth =
      Program.meaning mode depth [init, .while cond (body ++ [step])] := by
  have hsome : ∀ s ∈ some step, s.returnless := by
    intro s hs
    obtain rfl := Option.mem_some.1 hs
    exact hstep
  have happend : Program.returnless (body ++ [step]) := by
    rw [Program.returnless_append, hbody, Program.returnless, hstep]
    rfl
  rw [Stmt.meaning_for hinit, Program.meaning_cons, Program.meaning_singleton, Stmt.meaning_while,
    loopMeaning_congr hbody hsome happend (by simp) (passMeaning_some_eq_append body step)]

end Statements

/-- **`for` is its first part and then a `while`.**  Let there be no `return` in the head and body of
a `for`, except in functions that are defined there.  Compare it with the block of its first part and
a `while` that has the same condition and the step at the end of its body.  Under either mode, in any
frame, with any functions and on any console, if nothing is cancelled, the one ends if and only if
the other does, and then in the same way: with the same completion or error, the same variables and
functions, the same lines and requests, and the same input left. -/
theorem for_means_init_while (mode : ReturnMode) (depth : Nat) {init step : Stmt} (cond : Condition)
    {body : Program} (hinit : init.returnless) (hstep : step.returnless) (hbody : body.returnless)
    (w : World) :
    ((∃ r w', (Stmt.for init cond step body).meaning mode depth w r w') ↔
        ∃ r w', Program.meaning mode depth [init, .while cond (body ++ [step])] w r w') ∧
      ∀ r₁ w₁ r₂ w₂, (Stmt.for init cond step body).meaning mode depth w r₁ w₁ →
        Program.meaning mode depth [init, .while cond (body ++ [step])] w r₂ w₂ →
          r₁ = r₂ ∧ w₁ = w₂ := by
  rw [← Stmt.meaning_for_eq_while cond hinit hstep hbody]
  -- the two have one meaning, and what is left is that an execution ends in one way only
  exact ⟨Iff.rfl, fun _ _ _ _ => Stmt.meaning_unique⟩

/-- A loop that starts with an answer from the queue, in a conditional, and defines a function in
every pass. -/
theorem for_means_init_while_read :
    let x := utf8 "x"
    let one := utf8 "1"
    let init := Stmt.ite ⟨one, utf8 "==", one⟩ [.read x] none
    let step := Stmt.assign x (.binary x (utf8 "+") one)
    let cond : Condition := ⟨x, utf8 "<", utf8 "4"⟩
    let body : Program := [.print x, .fun x [] [.return (.int 0)]]
    let w : World := ⟨⟨∅, ∅⟩, ((Session.new []).enqueue [utf8 "2", utf8 "9"]).console⟩
    init.returnless ∧ step.returnless ∧ body.returnless ∧
      ∃ w', (Stmt.for init cond step body).meaning .propagate 0 w (.ok .next) w' ∧
        Program.meaning .propagate 0 [init, .while cond (body ++ [step])] w (.ok .next) w' ∧
        w'.console.outputs.toList = [⟨utf8 "2", false⟩, ⟨utf8 "3", false⟩] ∧
        w'.console.queue = [utf8 "9"] := by
  intro x one init step cond body w
  have hinit : init.returnless := rfl
  have hstep : step.returnless := rfl
  have hbody : body.returnless := rfl
  have hrun : ((exec .propagate 12 0 (.for init cond step body) w.state fun r s =>
      .done (r, s)).play .never w.console).map
        (fun z => (z.1.1.toOption, z.2.outputs.toList, z.2.queue)) =
      some (some .next, [⟨utf8 "2", false⟩, ⟨utf8 "3", false⟩], [utf8 "9"]) := by
    decide +kernel
  obtain ⟨⟨⟨r, s⟩, c⟩, hplay, hz⟩ := Option.map_eq_some_iff.1 hrun
  simp only [Prod.mk.injEq] at hz
  obtain ⟨hr, houtputs, hqueue⟩ := hz
  have hfor : (Stmt.for init cond step body).meaning .propagate 0 w r ⟨s, c.atLook 0⟩ :=
    ⟨12, Option.map_eq_some_iff.2 ⟨_, hplay, rfl⟩⟩
  obtain ⟨hends, hsame⟩ := for_means_init_while .propagate 0 cond hinit hstep hbody w
  obtain ⟨r', w', hwhile⟩ := hends.1 ⟨r, ⟨s, c.atLook 0⟩, hfor⟩
  obtain ⟨rfl, rfl⟩ := hsame _ _ _ _ hfor hwhile
  cases r with
  | error e => cases hr
  | ok completion =>
    cases hr
    exact ⟨hinit, hstep, hbody, ⟨s, c.atLook 0⟩, hfor, hwhile, houtputs, hqueue⟩

/-- A `return` as the step is dropped in a `for`, and ends the `while`. -/
example :
    let x := utf8 "x"
    let init := Stmt.declare x (.int 0)
    let cond : Condition := ⟨x, utf8 "<", utf8 "2"⟩
    let body : Program := [.assign x (.binary x (utf8 "+") (utf8 "1")), .print x]
    let step := Stmt.return (.int 0)
    let shown := fun p => ((Session.new p).setReturnMode .propagate).shown .never 12
    shown [.for init cond step body] ≠ shown [init, .while cond (body ++ [step])] := by
  decide +kernel

end Scriptlet
