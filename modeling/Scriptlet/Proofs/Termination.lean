import Scriptlet.Proofs.Approximation
import Scriptlet.Proofs.Tables

/-!
# Scriptlet.Proofs.Termination — programs without loops come to an end

A program without `while` and `for` can go on for long only through calls, and calls nest at most
`maxCallDepth` deep.  A bound for such a program therefore depends on its size alone, whatever the
functions are called with, whatever is answered, and however functions are defined anew while the
program runs (`run_of_loopFree`).

* `d.Within k`: the dialogue `d` is never cut, and it ends after at most `k` exchanges.
* `x.EndsWithin size k`: the action `x` adds at most `k` exchanges, as long as all functions have
  bodies without loops, of at most the given size, and it keeps the functions so.

The bound on steps grows by the size of the program with each call that may still be nested, and the
bound on exchanges is multiplied by it.  The induction is on the number of calls that may still be
nested, and within it on the bound of steps.  What holds under every bound could be shown as a
comparison, but that a run is not cut holds only if there are steps enough for what is left of it.
-/

namespace Scriptlet

variable {ρ α β : Type}

/-! ### Programs without loops, and their size -/

mutual

def Stmt.loopFree : Stmt → Bool
  | .ite _ body none => Program.loopFree body
  | .ite _ body (some alternative) => Program.loopFree body && Program.loopFree alternative
  | .while _ _ => false
  | .for _ _ _ _ => false
  | .fun _ _ body => Program.loopFree body
  | _ => true

/-- There is no `while` and no `for` in the program, nor in the bodies of its functions. -/
def Program.loopFree : Program → Bool
  | [] => true
  | s :: ss => s.loopFree && Program.loopFree ss

end

mutual

def Stmt.size : Stmt → Nat
  | .ite _ body none => 1 + Program.size body
  | .ite _ body (some alternative) => 1 + Program.size body + Program.size alternative
  | .while _ body => 1 + Program.size body
  | .for init _ step body => 1 + init.size + step.size + Program.size body
  | .fun _ _ body => 1 + Program.size body
  | _ => 1

/-- The number of statements, each counted once for itself and once for its place in a list. -/
def Program.size : Program → Nat
  | [] => 0
  | s :: ss => 1 + s.size + Program.size ss

end

/-- The body of a function has no loops, and at most the given size. -/
structure Function.Fits (size : Nat) (f : Function) : Prop where
  loopFree : Program.loopFree f.body
  size_le : Program.size f.body ≤ size

/-! ### Dialogues that end -/

namespace Dialogue

/-- The dialogue ends after at most so many exchanges, whatever is answered. -/
inductive Within : Nat → Dialogue ρ → Prop
  | done {k : Nat} {result : ρ} : Within k (.done result)
  | say {k : Nat} {text : Text} {next : Dialogue ρ} (h : Within k next) :
    Within (k + 1) (.say text next)
  | ask {k : Nat} {name : Token} {next : Answer → Dialogue ρ} (h : ∀ a, Within k (next a)) :
    Within (k + 1) (.ask name next)
  | poll {k : Nat} {next : Bool → Dialogue ρ} (h : ∀ b, Within k (next b)) :
    Within (k + 1) (.poll next)

theorem Within.mono {j k : Nat} {d : Dialogue ρ} (h : d.Within j) (hjk : j ≤ k) : d.Within k := by
  induction h generalizing k with
  | done => exact .done
  | say _ ih =>
    obtain ⟨k, rfl⟩ := Nat.exists_eq_add_of_le' (Nat.one_le_of_lt hjk)
    exact .say (ih (Nat.le_of_succ_le_succ hjk))
  | ask _ ih =>
    obtain ⟨k, rfl⟩ := Nat.exists_eq_add_of_le' (Nat.one_le_of_lt hjk)
    exact .ask fun a => ih a (Nat.le_of_succ_le_succ hjk)
  | poll _ ih =>
    obtain ⟨k, rfl⟩ := Nat.exists_eq_add_of_le' (Nat.one_le_of_lt hjk)
    exact .poll fun b => ih b (Nat.le_of_succ_le_succ hjk)

theorem Within.play {k : Nat} {d : Dialogue ρ} (h : d.Within k) (context : Context)
    (c : Console) : ∃ x, d.play context c = some x := by
  induction h generalizing c with
  | done => exact ⟨_, rfl⟩
  | say _ ih => exact ih _
  | ask _ ih => exact ih _ _
  | poll _ ih => exact ih _ _

end Dialogue

/-! ### Actions that end -/

namespace Action

variable {size j k : Nat}

/-- The action adds at most `k` exchanges to what follows it, and keeps all functions without loops
and within the given size. -/
def EndsWithin (size k : Nat) (x : Action ρ α) : Prop :=
  ∀ s next j, s.functions.All (Function.Fits size) →
    (∀ r s', s'.functions.All (Function.Fits size) → (next r s').Within j) →
      (x s next).Within (k + j)

theorem EndsWithin.mono {x : Action ρ α} (h : x.EndsWithin size j) (hjk : j ≤ k) :
    x.EndsWithin size k := fun s next i hs hnext =>
  (h s next i hs hnext).mono (Nat.add_le_add_right hjk i)

theorem endsWithin_pure (a : α) : (pure a : Action ρ α).EndsWithin size 0 := by
  intro s next j hs hnext
  rw [Nat.zero_add]
  exact hnext (.ok a) s hs

theorem endsWithin_fail (e : RunError) : (fail e : Action ρ α).EndsWithin size 0 := by
  intro s next j hs hnext
  rw [Nat.zero_add]
  exact hnext (.error e) s hs

theorem endsWithin_assign (name : Token) (v : Value) :
    (assign name v : Action ρ Unit).EndsWithin size 0 := by
  intro s next j hs hnext
  rw [Nat.zero_add]
  exact hnext (.ok ()) _ hs

theorem endsWithin_define {f : Function} (hf : f.Fits size) (name : Token) :
    (define name f : Action ρ Unit).EndsWithin size 0 := by
  intro s next j hs hnext
  rw [Nat.zero_add]
  exact hnext (.ok ()) _ (hs.set hf name)

theorem endsWithin_say (text : Text) : (say text : Action ρ Unit).EndsWithin size 1 := by
  intro s next j hs hnext
  rw [Nat.add_comm]
  exact .say (hnext (.ok ()) s hs)

theorem endsWithin_ask (name : Token) : (ask name : Action ρ Text).EndsWithin size 1 := by
  intro s next j hs hnext
  rw [Nat.add_comm]
  refine .ask fun answer => ?_
  cases answer with
  | ok raw => exact hnext (.ok raw) s hs
  | error fault => exact hnext (.error (.read name fault)) s hs

theorem endsWithin_checkpoint : (checkpoint : Action ρ Unit).EndsWithin size 1 := by
  intro s next j hs hnext
  rw [Nat.add_comm]
  refine .poll fun cancelled => ?_
  cases cancelled with
  | true => exact hnext (.error .canceled) s hs
  | false => exact hnext (.ok ()) s hs

theorem EndsWithin.bind {x : Action ρ α} {f : α → Action ρ β} (hx : x.EndsWithin size j)
    (hf : ∀ a, (f a).EndsWithin size k) : (x >>= f).EndsWithin size (j + k) := by
  intro s next i hs hnext
  rw [Nat.add_assoc]
  refine hx s _ (k + i) hs fun r s' hs' => ?_
  cases r with
  | ok a => exact hf a s' next i hs' hnext
  | error e => exact (hnext (.error e) s' hs').mono (Nat.le_add_left i k)

theorem EndsWithin.within {x : Action ρ α} (f : Frame) (hx : x.EndsWithin size k) :
    (within f x).EndsWithin size k := fun _ _ j hs hnext =>
  hx _ _ j hs fun _ _ hs' => hnext _ _ hs'

theorem endsWithin_frame_bind {f : Frame → Action ρ β} (h : ∀ a, (f a).EndsWithin size k) :
    (frame >>= f).EndsWithin size k := fun s => h s.frame s

theorem endsWithin_functions_bind {f : FunctionTable → Action ρ β}
    (h : ∀ t, t.All (Function.Fits size) → (f t).EndsWithin size k) :
    (functions >>= f).EndsWithin size k := fun s next j hs => h s.functions hs s next j hs

end Action

/-! ### The interpreter -/

open Scriptlet.Action

/-- Steps that are enough for a call, if `r` calls may be nested. -/
def callSteps (size r : Nat) : Nat := 1 + r * (size + 2)

/-- Exchanges that a call has at most, if `r` calls may be nested. -/
def callExchanges (size : Nat) : Nat → Nat
  | 0 => 0
  | r + 1 => size * (callExchanges size r + 1) + callExchanges size r

section Interpreter

variable {mode : ReturnMode} {size depth steps k : Nat}

/-- Under every bound from `steps` on, calls end after at most `k` exchanges. -/
def CallsEnd (ρ : Type) (mode : ReturnMode) (size depth steps k : Nat) : Prop :=
  ∀ n ≥ steps, ∀ name args, (call mode n depth name args : Action ρ Value).EndsWithin size k

/-- Under the bound `n`, statements end, as far as `n` is enough for their size. -/
structure StatementsEnd (ρ : Type) (mode : ReturnMode) (size depth steps k n : Nat) : Prop where
  exec : ∀ s : Stmt, s.loopFree → s.size ≤ size → s.size + 1 + steps ≤ n →
    (exec mode n depth s : Action ρ Completion).EndsWithin size (s.size * (k + 1))
  execList : ∀ ss : Program, ss.loopFree → ss.size ≤ size → ss.size + 1 + steps ≤ n →
    (execList mode n depth ss : Action ρ Completion).EndsWithin size (ss.size * (k + 1))

theorem endsWithin_eval (hcall : CallsEnd ρ mode size depth steps k) {n : Nat} (hn : steps + 1 ≤ n)
    (e : Expr) : (eval mode n depth e : Action ρ Value).EndsWithin size k := by
  obtain ⟨n, rfl⟩ := Nat.exists_eq_add_of_le' (Nat.one_le_of_lt hn)
  cases e with
  | int i => exact (endsWithin_pure _).mono (Nat.zero_le k)
  | str t => exact (endsWithin_pure _).mono (Nat.zero_le k)
  | binary left op right =>
    exact endsWithin_frame_bind fun f => (endsWithin_pure _).mono (Nat.zero_le k)
  | call name args => exact hcall n (Nat.le_of_succ_le_succ hn) name args
  | absent => exact (endsWithin_fail _).mono (Nat.zero_le k)

/-- A statement that evaluates an expression and stores its value. -/
theorem endsWithin_binding (hcall : CallsEnd ρ mode size depth steps k) {n : Nat}
    (hn : steps + 1 ≤ n) (name : Token) (e : Expr) :
    (eval mode n depth e >>= fun v => assign name v >>= fun _ => pure Completion.next :
      Action ρ Completion).EndsWithin size k :=
  (endsWithin_eval hcall hn e).bind fun v =>
    (endsWithin_assign name v).bind fun _ => endsWithin_pure _

/-- The body of a conditional. -/
theorem endsWithin_body {n j : Nat} {ss : Program}
    (h : (execList mode n depth ss : Action ρ Completion).EndsWithin size j) :
    (execList mode n depth ss >>= fun c => pure (mode.outside c) :
      Action ρ Completion).EndsWithin size j :=
  h.bind fun _ => endsWithin_pure _

theorem endsWithin_exec (hcall : CallsEnd ρ mode size depth steps k) {n : Nat}
    (ih : StatementsEnd ρ mode size depth steps k n) {s : Stmt} (hfree : s.loopFree)
    (hsize : s.size ≤ size) (hn : s.size + 1 + steps ≤ n + 1) :
    (exec mode (n + 1) depth s : Action ρ Completion).EndsWithin size (s.size * (k + 1)) := by
  cases s with
  | declare name value | assign name value =>
    refine (endsWithin_binding hcall ?_ name value).mono ?_
    · simp only [Stmt.size] at hn
      omega
    · simp [Stmt.size]
  | print operand =>
    refine EndsWithin.mono (j := 1) ?_ ?_
    · exact endsWithin_frame_bind fun f => (endsWithin_say _).bind fun _ => endsWithin_pure _
    · simp [Stmt.size]
  | read name =>
    refine EndsWithin.mono (j := 1) ?_ ?_
    · exact (endsWithin_ask name).bind fun raw =>
        (endsWithin_assign name _).bind fun _ => endsWithin_pure _
    · simp [Stmt.size]
  | ite cond body alternative =>
    refine endsWithin_frame_bind fun f => ?_
    cases alternative with
    | none =>
      simp only [Stmt.loopFree, Stmt.size] at hfree hsize hn ⊢
      split
      · refine (endsWithin_body (ih.execList body hfree (by omega) (by omega))).mono ?_
        exact Nat.mul_le_mul_right _ (Nat.le_add_left _ _)
      · exact (endsWithin_pure _).mono (Nat.zero_le _)
    | some body' =>
      simp only [Stmt.loopFree, Stmt.size, Bool.and_eq_true] at hfree hsize hn ⊢
      split
      · refine (endsWithin_body (ih.execList body hfree.1 (by omega) (by omega))).mono ?_
        exact Nat.mul_le_mul_right _ (by omega)
      · refine (endsWithin_body (ih.execList body' hfree.2 (by omega) (by omega))).mono ?_
        exact Nat.mul_le_mul_right _ (by omega)
  | «while» cond body => simp [Stmt.loopFree] at hfree
  | «for» init cond step body => simp [Stmt.loopFree] at hfree
  | «fun» name params body =>
    simp only [Stmt.loopFree, Stmt.size] at hfree hsize
    have hfits : Function.Fits size ⟨params, body⟩ := ⟨hfree, by simp only; omega⟩
    refine EndsWithin.mono (j := 0) ?_ (Nat.zero_le _)
    exact (endsWithin_define hfits name).bind fun _ => endsWithin_pure _
  | call name args =>
    simp only [Stmt.size] at hn ⊢
    refine EndsWithin.mono (j := k) ?_ (by omega)
    exact (hcall n (by omega) name args).bind fun _ => endsWithin_pure _
  | «return» value => exact (endsWithin_pure _).mono (Nat.zero_le _)
  | absent => exact (endsWithin_fail _).mono (Nat.zero_le _)

theorem endsWithin_execList {n : Nat} (ih : StatementsEnd ρ mode size depth steps k n)
    {ss : Program} (hfree : ss.loopFree) (hsize : ss.size ≤ size)
    (hn : ss.size + 1 + steps ≤ n + 1) :
    (execList mode (n + 1) depth ss : Action ρ Completion).EndsWithin size (ss.size * (k + 1)) := by
  cases ss with
  | nil => exact (endsWithin_pure _).mono (Nat.zero_le _)
  | cons s ss =>
    simp only [Program.loopFree, Program.size, Bool.and_eq_true] at hfree hsize hn ⊢
    have hs := ih.exec s hfree.1 (by omega) (by omega)
    have hss := ih.execList ss hfree.2 (by omega) (by omega)
    refine EndsWithin.mono (j := 1 + (s.size * (k + 1) + Program.size ss * (k + 1))) ?_ ?_
    · refine endsWithin_checkpoint.bind fun _ => hs.bind fun c => ?_
      cases c with
      | next => exact hss
      | «return» value => exact (endsWithin_pure _).mono (Nat.zero_le _)
    · rw [Nat.add_mul, Nat.add_mul]
      omega

/-- By induction on the bound. -/
theorem statementsEnd (hcall : CallsEnd ρ mode size depth steps k) (n : Nat) :
    StatementsEnd ρ mode size depth steps k n := by
  induction n with
  | zero => exact ⟨fun s _ _ hn => by omega, fun ss _ _ hn => by omega⟩
  | succ n ih =>
    exact ⟨fun s hfree hsize hn => endsWithin_exec hcall ih hfree hsize hn,
      fun ss hfree hsize hn => endsWithin_execList ih hfree hsize hn⟩

/-- By induction on the number of calls that may still be nested. -/
theorem callsEnd {r : Nat} (hr : depth + r = maxCallDepth) :
    CallsEnd ρ mode size depth (callSteps size r) (callExchanges size r) := by
  induction r generalizing depth with
  | zero =>
    intro n hn name args
    obtain ⟨n, rfl⟩ := Nat.exists_eq_add_of_le' (Nat.le_of_add_right_le hn)
    refine endsWithin_functions_bind fun t ht => ?_
    split
    · exact endsWithin_fail _
    · rw [if_pos (by omega)]
      exact endsWithin_fail _
  | succ r ih =>
    intro n hn name args
    have hcall : CallsEnd ρ mode size (depth + 1) (callSteps size r) (callExchanges size r) :=
      ih (by omega)
    have hsteps : callSteps size (r + 1) = size + 2 + callSteps size r := by
      simp only [callSteps, Nat.add_mul]
      omega
    obtain ⟨n, rfl⟩ := Nat.exists_eq_add_of_le' (show 1 ≤ n by omega)
    refine endsWithin_functions_bind fun t ht => ?_
    split
    · exact (endsWithin_fail _).mono (Nat.zero_le _)
    · next f hf =>
      split
      · exact (endsWithin_fail _).mono (Nat.zero_le _)
      · obtain ⟨hfree, hsize⟩ := ht name f hf
        have hbody := (statementsEnd hcall n).execList f.body hfree hsize (by omega)
        refine endsWithin_frame_bind fun caller => EndsWithin.within _ ?_
        refine (hbody.mono (Nat.mul_le_mul_right _ hsize)).bind fun c => ?_
        cases c with
        | next => exact (endsWithin_pure _).mono (Nat.zero_le _)
        | «return» value => exact endsWithin_eval hcall (by omega) value

end Interpreter

/-! ### Programs -/

namespace Program

/-- A number of steps that is enough to follow a program without loops to its end. -/
def stepBound (p : Program) : Nat := p.size + 1 + callSteps p.size maxCallDepth

/-- A number of exchanges that a program without loops does not exceed. -/
def exchangeBound (p : Program) : Nat := p.size * (callExchanges p.size maxCallDepth + 1)

theorem endsWithin_execTop {mode : ReturnMode} {size n : Nat}
    (hn : size + 1 + callSteps size maxCallDepth ≤ n) {ss : Program} (hfree : ss.loopFree)
    (hsize : ss.size ≤ size) :
    (execTop mode n ss : Action ρ Unit).EndsWithin size
      (ss.size * (callExchanges size maxCallDepth + 1)) := by
  induction ss with
  | nil => exact (endsWithin_pure _).mono (Nat.zero_le _)
  | cons s ss ih =>
    simp only [Program.loopFree, Program.size, Bool.and_eq_true] at hfree hsize ⊢
    have hcall : CallsEnd ρ mode size 0 _ _ := callsEnd (Nat.zero_add maxCallDepth)
    have hs := (statementsEnd hcall n).exec s hfree.1 (by omega) (by omega)
    refine (endsWithin_checkpoint.bind fun _ => hs.bind fun _ =>
      ih hfree.2 (by omega)).mono ?_
    rw [Nat.add_mul, Nat.add_mul]
    omega

theorem dialogue_within {p : Program} (h : p.loopFree) (mode : ReturnMode) :
    (p.dialogue mode p.stepBound).Within p.exchangeBound := by
  have hends : (execTop mode p.stepBound p : Action Report Unit).EndsWithin p.size _ :=
    endsWithin_execTop (Nat.le_refl p.stepBound) h (Nat.le_refl p.size)
  have hwithin := hends ⟨∅, ∅⟩ (fun result s => .done ⟨result, s.frame, s.functions⟩) 0
    (Table.all_empty _) fun _ _ _ => .done
  rw [Nat.add_zero] at hwithin
  exact hwithin

end Program

/-- **A program without loops comes to an end.**  The bounds depend on the program alone.  Within
`p.stepBound` nested steps no run of `p` is cut, and it has at most `p.exchangeBound` exchanges,
under both return modes and whatever is answered.  So in every session for `p`, with any settings,
queue and provider, and under any cancellation, a run has a result, which larger bounds do not
change. -/
theorem run_of_loopFree {p : Program} (h : p.loopFree) :
    (∀ mode, (p.dialogue mode p.stepBound).Within p.exchangeBound) ∧
      ∀ (s : Session) (context : Context), s.program = p →
        ∃ r s', ∀ n ≥ p.stepBound, s.run context n = some (r, s') := by
  refine ⟨fun mode => Program.dialogue_within h mode, fun s context hs => ?_⟩
  subst hs
  obtain ⟨x, hx⟩ := (Program.dialogue_within h s.mode).play context s.console
  obtain ⟨⟨r, s'⟩, hrun⟩ : ∃ y, s.run context s.program.stepBound = some y :=
    ⟨_, congrArg (Option.map _) hx⟩
  exact ⟨r, s', fun n hn => Session.run_further hn hrun⟩

/-- Two functions that call each other, one of which is defined anew in each call of the other. -/
theorem run_of_loopFree_mutual :
    let f := utf8 "f"
    let g := utf8 "g"
    let p : Program :=
      [.fun f [] [.fun g [] [.return (.call f [])], .read (utf8 "x"), .return (.call g [])],
        .declare (utf8 "y") (.call f [])]
    p.loopFree ∧ ∃ r s', ∀ n ≥ p.stepBound,
      ((Session.new p).setProvider (some ⟨fun _ => .ok []⟩)).run .never n = some (r, s') := by
  intro f g p
  exact ⟨rfl, (run_of_loopFree (p := p) rfl).2 _ .never rfl⟩

end Scriptlet
