import Scriptlet.Proofs.Alphabet
import Scriptlet.Proofs.Approximation

/-!
# Scriptlet.Proofs.Comparison — one way through the interpreter for all comparisons

To compare two runs, or to say something of all runs, one has to go through the interpreter once.
That is done here, for everything that is kept from one step to the next.

* A `Comparison` says what is asked of two dialogues, and that it is kept by everything that a run
  can do next.  A property of single dialogues is a comparison that looks at one side only.
* `x.Alike K F R y` lifts a comparison `K` to actions: from the same variables, and from functions
  that `F` relates, the two actions fail in the same way or yield values that `R` relates, and the
  dialogues are as `K` asks.  There is one rule for each way to build an action.
* A `Likeness` says which statements are compared with which, one level at a time.  The parts may
  have side conditions, and the two sides may be run under different return modes.

From a likeness and a comparison follows that the parts of the interpreter are alike
(`Likeness.interpreterAt`), and so are programs (`Likeness.execTop`).  What is said elsewhere about
two programs under the same bound is an instance, and need not look into the interpreter again.
-/

namespace Scriptlet

variable {ρ σ α β γ δ : Type} {A : Alphabet}

/-- What is asked of two dialogues: `alike` while the runs go on, and `stopped e` where they have
failed with `e`.  The texts that are said and asked for are in the alphabet, as long as the answers
are. -/
structure Comparison (A : Alphabet) (σ ρ : Type) where
  alike : Dialogue σ → Dialogue ρ → Prop
  stopped : RunError → Dialogue σ → Dialogue ρ → Prop
  cut : alike .cut .cut
  say : ∀ {text d d'}, A.text text → alike d d' → alike (.say text d) (.say text d')
  ask : ∀ {name f f'}, A.text name →
    (∀ raw, A.text raw → alike (f (.ok raw)) (f' (.ok raw))) →
    (∀ fault, stopped (.read name fault) (f (.error fault)) (f' (.error fault))) →
    alike (.ask name f) (.ask name f')
  poll : ∀ {f f'}, alike (f false) (f' false) → stopped .canceled (f true) (f' true) →
    alike (.poll f) (.poll f')
  /-- A failure that is not one of a request. -/
  raise : ∀ {e d d'}, (∀ name fault, e ≠ .read name fault) → A.text e.message →
    stopped e d d' → alike d d'

/-- The variables are the same, with values in the alphabet, and `F` relates the functions. -/
structure RunState.Alike (A : Alphabet) (F : Function → Function → Prop) (s s' : RunState) :
    Prop where
  frame : s.frame = s'.frame
  values : s.frame.All (Value.Over A)
  functions : s.functions.Matches F s'.functions

namespace RunState

theorem alike_empty (A : Alphabet) (F : Function → Function → Prop) :
    RunState.Alike A F ⟨∅, ∅⟩ ⟨∅, ∅⟩ := ⟨rfl, Table.all_empty _, Table.matches_empty⟩

theorem alike_refl {F : Function → Function → Prop} (hF : ∀ f, F f f) (s : RunState) :
    s.Alike .any F s := ⟨rfl, fun _ v _ => v.over_any, Table.matches_refl hF _⟩

theorem Alike.eq {F : Function → Function → Prop} {s s' : RunState}
    (h : s.Alike A F s') (hF : ∀ f f', F f f' → f = f') : s = s' := by
  obtain ⟨frame, functions⟩ := s
  rw [RunState.mk.injEq]
  exact ⟨h.frame, h.functions.eq hF⟩

end RunState

/-- The two continuations go on alike from related values, and stop with the same failure. -/
structure Continuation.Alike (K : Comparison A σ ρ) (F : Function → Function → Prop)
    (R : α → β → Prop) (k : Continuation σ α) (k' : Continuation ρ β) : Prop where
  next : ∀ a b s s', R a b → RunState.Alike A F s s' →
    K.alike (k (.ok a) s) (k' (.ok b) s')
  stop : ∀ e s s', RunState.Alike A F s s' → K.stopped e (k (.error e) s) (k' (.error e) s')

/-! ### Actions -/

namespace Action

/-- The two actions yield related values or the same failure, and hold dialogues as `K` asks. -/
def Alike (K : Comparison A σ ρ) (F : Function → Function → Prop) (R : α → β → Prop)
    (x : Action σ α) (y : Action ρ β) : Prop :=
  ∀ s s' k k', RunState.Alike A F s s' → Continuation.Alike K F R k k' →
    K.alike (x s k) (y s' k')

variable {K : Comparison A σ ρ} {F : Function → Function → Prop} {R R' : α → β → Prop}
  {S : γ → δ → Prop}

theorem alike_cut : Alike K F R cut cut := fun _ _ _ _ _ _ => K.cut

theorem alike_pure {a : α} {b : β} (h : R a b) : Alike K F R (pure a) (pure b) :=
  fun s s' _ _ hs hk => hk.next a b s s' h hs

theorem alike_fail {e : RunError} (hread : ∀ name fault, e ≠ .read name fault)
    (he : A.text e.message) : Alike K F R (fail e) (fail e) :=
  fun s s' _ _ hs hk => K.raise hread he (hk.stop e s s' hs)

theorem alike_say {text : Text} (h : A.text text) : Alike K F Eq (say text) (say text) :=
  fun s s' _ _ hs hk => K.say h (hk.next () () s s' rfl hs)

theorem alike_ask {name : Token} (h : A.text name) :
    Alike K F (fun raw raw' => raw = raw' ∧ A.text raw) (ask name) (ask name) := by
  intro s s' k k' hs hk
  refine K.ask h (fun raw hraw => ?_) fun fault => ?_
  · exact hk.next raw raw s s' ⟨rfl, hraw⟩ hs
  · exact hk.stop (.read name fault) s s' hs

theorem alike_checkpoint : Alike K F Eq checkpoint checkpoint :=
  fun s s' _ _ hs hk => K.poll (hk.next () () s s' rfl hs) (hk.stop .canceled s s' hs)

theorem alike_assign (name : Token) {v : Value} (h : v.Over A) :
    Alike K F Eq (assign name v) (assign name v) := by
  intro s s' k k' hs hk
  refine hk.next () () _ _ rfl ⟨?_, hs.values.set h name, hs.functions⟩
  exact congrArg (Table.set · name v) hs.frame

theorem alike_define (name : Token) {f f' : Function} (h : F f f') :
    Alike K F Eq (define name f) (define name f') := fun _ _ _ _ hs hk =>
  hk.next () () _ _ rfl ⟨hs.frame, hs.values, hs.functions.set h name⟩

theorem Alike.mono {x : Action σ α} {y : Action ρ β} (hx : Alike K F R x y)
    (h : ∀ a b, R a b → R' a b) : Alike K F R' x y := fun s s' k k' hs hk =>
  hx s s' k k' hs ⟨fun a b s s' hab => hk.next a b s s' (h a b hab), hk.stop⟩

theorem Alike.bind {x : Action σ α} {y : Action ρ β} {f : α → Action σ γ} {g : β → Action ρ δ}
    (hx : Alike K F R x y) (hf : ∀ a b, R a b → Alike K F S (f a) (g b)) :
    Alike K F S (x >>= f) (y >>= g) := by
  intro s s' k k' hs hk
  exact hx s s' _ _ hs ⟨fun a b u u' hab hu => hf a b hab u u' k k' hu hk, hk.stop⟩

/-- The caller's variables are current again as they were when it was left. -/
theorem Alike.within {x : Action σ α} {y : Action ρ β} {f : Frame}
    (hf : f.All (Value.Over A)) (hx : Alike K F R x y) :
    Alike K F R (within f x) (within f y) := by
  intro s s' k k' hs hk
  refine hx _ _ _ _ ⟨rfl, hf, hs.functions⟩ ⟨fun a b u u' hab hu => ?_, fun e u u' hu => ?_⟩
  · exact hk.next a b _ _ hab ⟨hs.frame, hs.values, hu.functions⟩
  · exact hk.stop e _ _ ⟨hs.frame, hs.values, hu.functions⟩

theorem alike_frame_bind {f : Frame → Action σ γ} {g : Frame → Action ρ δ}
    (h : ∀ frame, frame.All (Value.Over A) → Alike K F S (f frame) (g frame)) :
    Alike K F S (frame >>= f) (frame >>= g) := by
  intro s s' k k' hs hk
  have hnext := h s.frame hs.values s s' k k' hs hk
  rw [hs.frame] at hnext
  show K.alike (f s.frame s k) (g s'.frame s' k')
  rwa [hs.frame]

theorem alike_functions_bind {f : FunctionTable → Action σ γ} {g : FunctionTable → Action ρ δ}
    (h : ∀ t t', t.Matches F t' → Alike K F S (f t) (g t')) :
    Alike K F S (functions >>= f) (functions >>= g) := fun s s' k k' hs hk =>
  h s.functions s'.functions hs.functions s s' k k' hs hk

end Action

/-! ### Statements -/

/-- The two statements are of the same kind, and their parts are related by `stmt` and `block`,
which are told whether a part must be without a `return` that takes effect: the branches of a
conditional and the body of a loop as `inner` says, and the statement itself as `plain` says. -/
inductive Stmt.Like (A : Alphabet) (stmt : Bool → Stmt → Stmt → Prop)
    (block : Bool → Program → Program → Prop) (inner plain : Bool) : Stmt → Stmt → Prop
  | declare {name : Token} {value : Expr} (h : value.Over A) :
    Like A stmt block inner plain (.declare name value) (.declare name value)
  | assign {name : Token} {value : Expr} (h : value.Over A) :
    Like A stmt block inner plain (.assign name value) (.assign name value)
  | print {operand : Token} (h : A.text operand) :
    Like A stmt block inner plain (.print operand) (.print operand)
  | read {name : Token} (h : A.text name) : Like A stmt block inner plain (.read name) (.read name)
  | ite {cond : Condition} {body body' : Program} (h : block inner body body') :
    Like A stmt block inner plain (.ite cond body none) (.ite cond body' none)
  | iteElse {cond : Condition} {body body' alternative alternative' : Program}
    (h : block inner body body') (h' : block inner alternative alternative') :
    Like A stmt block inner plain (.ite cond body (some alternative))
      (.ite cond body' (some alternative'))
  | while {cond : Condition} {body body' : Program} (h : block inner body body') :
    Like A stmt block inner plain (.while cond body) (.while cond body')
  | for {init init' step step' : Stmt} {cond : Condition} {body body' : Program}
    (hinit : stmt false init init') (hstep : stmt false step step') (h : block inner body body') :
    Like A stmt block inner plain (.for init cond step body) (.for init' cond step' body')
  | fun {name : Token} {params : List Token} {body body' : Program} (h : block false body body') :
    Like A stmt block inner plain (.fun name params body) (.fun name params body')
  | call {name : Token} {args : List Token} (h : ∀ t ∈ name :: args, A.text t) :
    Like A stmt block inner plain (.call name args) (.call name args)
  | return {value : Expr} (hplain : plain = false) (h : value.Over A) :
    Like A stmt block inner plain (.return value) (.return value)
  | absent : Like A stmt block inner plain .absent .absent

/-- The two blocks are related statement by statement, up to the first `return`. -/
inductive Program.Like (A : Alphabet) (stmt : Bool → Stmt → Stmt → Prop)
    (block : Bool → Program → Program → Prop) (plain : Bool) : Program → Program → Prop
  | nil : Like A stmt block plain [] []
  | cons {s s' : Stmt} {ss ss' : Program} (h : stmt plain s s') (hss : block plain ss ss') :
    Like A stmt block plain (s :: ss) (s' :: ss')
  | return {value : Expr} {ss ss' : Program} (h : stmt plain (.return value) (.return value)) :
    Like A stmt block plain (.return value :: ss) (.return value :: ss')

/-- Which statements and blocks are compared, under two return modes.  If these are different, a
`return` must not take effect in the branches of a conditional and in the body of a loop. -/
structure Likeness (A : Alphabet) (mode mode' : ReturnMode) where
  stmt : Bool → Stmt → Stmt → Prop
  block : Bool → Program → Program → Prop
  ofStmt : ∀ {plain s s'}, stmt plain s s' →
    Stmt.Like A stmt block (plain || mode != mode') plain s s'
  ofBlock : ∀ {plain ss ss'}, block plain ss ss' → Program.Like A stmt block plain ss ss'

/-- Functions are compared with the same parameters. -/
def Likeness.function {mode mode' : ReturnMode} (L : Likeness A mode mode')
    (f f' : Function) : Prop :=
  f.params = f'.params ∧ L.block false f.body f'.body

/-- The two statements end in the same way.  A `plain` one goes on with the next statement. -/
structure Completion.Alike (A : Alphabet) (plain : Bool) (c c' : Completion) : Prop where
  eq : c = c'
  texts : ∀ value, c = .return value → value.Over A
  next : plain = true → c = .next

namespace Completion

variable {plain : Bool} {c c' : Completion}

theorem alike_next : Alike A plain .next .next := ⟨rfl, nofun, fun _ => rfl⟩

theorem alike_return {value : Expr} (hplain : plain = false) (h : value.Over A) :
    Alike A plain (.return value) (.return value) := by
  refine ⟨rfl, fun e he => ?_, fun hp => ?_⟩
  · obtain rfl := Completion.return.inj he
    exact h
  · rw [hplain] at hp
    cases hp

/-- Under different modes a body goes on, and so does what it is the body of. -/
theorem Alike.outside {mode mode' : ReturnMode} (h : Alike A (plain || mode != mode') c c') :
    Alike A plain (mode.outside c) (mode'.outside c') := by
  obtain ⟨rfl, hover, hnext⟩ := h
  match mode, mode' with
  | .discard, .discard => exact alike_next
  | .propagate, .propagate =>
    refine ⟨rfl, hover, fun hplain => hnext ?_⟩
    rw [hplain]
    rfl
  | .discard, .propagate | .propagate, .discard =>
    obtain rfl := hnext (Bool.or_true plain)
    exact alike_next

end Completion

/-! ### Every statement with itself -/

mutual

def Stmt.returnless : Stmt → Bool
  | .ite _ body none => Program.returnless body
  | .ite _ body (some alternative) => Program.returnless body && Program.returnless alternative
  | .while _ body => Program.returnless body
  | .for init _ step body => init.returnless && step.returnless && Program.returnless body
  | .return _ => false
  | _ => true

/-- There is no `return` in the program, except in the bodies of functions. -/
def Program.returnless : Program → Bool
  | [] => true
  | s :: ss => s.returnless && Program.returnless ss

end

namespace Likeness

/-- Every statement over the alphabet is compared with itself.  It is plain if it is without a
`return`. -/
def same (A : Alphabet) (mode : ReturnMode) : Likeness A mode mode where
  stmt plain s s' := s = s' ∧ (plain = true → s.returnless) ∧ ∀ t ∈ s.texts, A.text t
  block plain ss ss' :=
    ss = ss' ∧ (plain = true → Program.returnless ss) ∧ ∀ t ∈ Program.texts ss, A.text t
  ofStmt := by
    rintro plain s _ ⟨rfl, hplain, htexts⟩
    rw [bne_self_eq_false, Bool.or_false]
    cases s with
    | declare name value => exact .declare htexts
    | assign name value => exact .assign htexts
    | print operand => exact .print (htexts operand List.mem_cons_self)
    | read name => exact .read (htexts name List.mem_cons_self)
    | ite cond body alternative =>
      cases alternative with
      | none => exact .ite ⟨rfl, hplain, htexts⟩
      | some body' =>
        simp only [Stmt.returnless, Bool.and_eq_true] at hplain
        obtain ⟨hbody, hbody'⟩ := List.forall_mem_append.1 htexts
        exact .iteElse ⟨rfl, fun hp => (hplain hp).1, hbody⟩ ⟨rfl, fun hp => (hplain hp).2, hbody'⟩
    | «while» cond body => exact .while ⟨rfl, hplain, htexts⟩
    | «for» init cond step body =>
      simp only [Stmt.returnless, Bool.and_eq_true] at hplain
      obtain ⟨hhead, hbody⟩ := List.forall_mem_append.1 htexts
      obtain ⟨hinit, hstep⟩ := List.forall_mem_append.1 hhead
      exact .for ⟨rfl, nofun, hinit⟩ ⟨rfl, nofun, hstep⟩ ⟨rfl, fun hp => (hplain hp).2, hbody⟩
    | «fun» name params body => exact .fun ⟨rfl, nofun, htexts⟩
    | call name args => exact .call htexts
    | «return» value =>
      refine .return (Bool.eq_false_iff.2 fun hp => ?_) htexts
      cases hplain hp
    | absent => exact .absent
  ofBlock := by
    rintro plain ss _ ⟨rfl, hplain, htexts⟩
    cases ss with
    | nil => exact .nil
    | cons s ss =>
      simp only [Program.returnless, Bool.and_eq_true] at hplain
      obtain ⟨hs, hss⟩ := List.forall_mem_append.1 htexts
      exact .cons ⟨rfl, fun hp => (hplain hp).1, hs⟩ ⟨rfl, fun hp => (hplain hp).2, hss⟩

variable {mode : ReturnMode}

theorem eq_of_function_same {f f' : Function} (h : (same A mode).function f f') : f = f' := by
  obtain ⟨params, body⟩ := f
  obtain ⟨hparams, hbody, -⟩ := h
  rw [Function.mk.injEq]
  exact ⟨hparams, hbody⟩

theorem stmt_same_any {plain : Bool} {s : Stmt} (h : plain = true → s.returnless) :
    (same .any mode).stmt plain s s := ⟨rfl, h, fun _ _ => trivial⟩

theorem block_same_any {plain : Bool} {ss : Program} (h : plain = true → ss.returnless) :
    (same .any mode).block plain ss ss := ⟨rfl, h, fun _ _ => trivial⟩

theorem function_same_any (f : Function) : (same .any mode).function f f :=
  ⟨rfl, block_same_any nofun⟩

theorem forall₂_same {p : Program} (h : ∀ t ∈ p.texts, A.text t) :
    List.Forall₂ ((same A mode).stmt false) p p := by
  induction p with
  | nil => exact .nil
  | cons s ss ih =>
    obtain ⟨hs, hss⟩ := List.forall_mem_append.1 h
    exact .cons ⟨rfl, nofun, hs⟩ (ih hss)

end Likeness

/-! ### The interpreter -/

open Scriptlet.Action

/-- The two values are the same, and in the alphabet. -/
def Value.Alike (A : Alphabet) (v v' : Value) : Prop := v = v' ∧ v.Over A

namespace Likeness

variable {K : Comparison A σ ρ} {mode mode' : ReturnMode} {L : Likeness A mode mode'}
  {n : Nat} {plain : Bool}

/-- Under the bound `n`, the parts of the interpreter are alike for what is compared. -/
structure At (K : Comparison A σ ρ) (L : Likeness A mode mode') (n : Nat) : Prop where
  exec : ∀ plain depth s s', L.stmt plain s s' → Alike K L.function
    (Completion.Alike A plain) (exec mode n depth s) (exec mode' n depth s')
  execList : ∀ plain depth ss ss', L.block plain ss ss' → Alike K L.function
    (Completion.Alike A plain) (execList mode n depth ss) (execList mode' n depth ss')
  loop : ∀ plain depth cond body body' step step', L.block (plain || mode != mode') body body' →
    Option.Rel (L.stmt false) step step' → Alike K L.function (Completion.Alike A plain)
      (loop mode n depth cond body step) (loop mode' n depth cond body' step')
  eval : ∀ depth e, e.Over A → Alike K L.function (Value.Alike A)
    (eval mode n depth e) (eval mode' n depth e)
  call : ∀ depth name args, (∀ t ∈ name :: args, A.text t) → Alike K L.function
    (Value.Alike A) (call mode n depth name args) (call mode' n depth name args)

theorem alike_next : Alike K L.function (Completion.Alike A plain) (pure .next)
    (pure .next) := alike_pure Completion.alike_next

/-- A statement that evaluates an expression and stores its value. -/
theorem alike_binding (h : At K L n) (depth : Nat) (name : Token) {e : Expr}
    (he : e.Over A) :
    Alike K L.function (Completion.Alike A plain)
      (eval mode n depth e >>= fun v => assign name v >>= fun _ => pure .next)
      (eval mode' n depth e >>= fun v => assign name v >>= fun _ => pure .next) := by
  refine (h.eval depth e he).bind ?_
  rintro v _ ⟨rfl, hv⟩
  exact (alike_assign name hv).bind fun _ _ _ => alike_next

/-- A branch of a conditional. -/
theorem alike_branch (h : At K L n) (depth : Nat) {body body' : Program}
    (hbody : L.block (plain || mode != mode') body body') :
    Alike K L.function (Completion.Alike A plain)
      (execList mode n depth body >>= fun c => pure (mode.outside c))
      (execList mode' n depth body' >>= fun c => pure (mode'.outside c)) :=
  (h.execList _ depth body body' hbody).bind fun _ _ hc => alike_pure hc.outside

theorem alike_exec (h : At K L n) (depth : Nat) {s s' : Stmt} (hs : L.stmt plain s s') :
    Alike K L.function (Completion.Alike A plain) (exec mode (n + 1) depth s)
      (exec mode' (n + 1) depth s') := by
  cases L.ofStmt hs with
  | declare he => exact alike_binding h depth _ he
  | assign he => exact alike_binding h depth _ he
  | print ht =>
    refine alike_frame_bind fun f hf => ?_
    exact (alike_say (Frame.text_shown hf ht)).bind fun _ _ _ => alike_next
  | read ht =>
    refine (alike_ask ht).bind ?_
    rintro raw _ ⟨rfl, hraw⟩
    exact (alike_assign _ (Value.over_ofInput hraw)).bind fun _ _ _ => alike_next
  | ite hbody =>
    refine alike_frame_bind fun f _ => ?_
    split
    · exact alike_branch h depth hbody
    · exact alike_next
  | iteElse hbody halternative =>
    refine alike_frame_bind fun f _ => ?_
    split
    · exact alike_branch h depth hbody
    · exact alike_branch h depth halternative
  | «while» hbody => exact h.loop plain depth _ _ _ none none hbody .none
  | «for» hinit hstep hbody =>
    -- whatever the first part ends with is dropped
    refine (h.exec false depth _ _ hinit).bind fun _ _ _ => ?_
    exact h.loop plain depth _ _ _ _ _ hbody (.some hstep)
  | «fun» hbody => exact (alike_define _ ⟨rfl, hbody⟩).bind fun _ _ _ => alike_next
  | call hcall => exact (h.call depth _ _ hcall).bind fun _ _ _ => alike_next
  | «return» hplain hvalue => exact alike_pure (Completion.alike_return hplain hvalue)
  | absent => exact alike_fail nofun (A.utf8 _)

theorem alike_execList (h : At K L n) (depth : Nat) {ss ss' : Program}
    (hss : L.block plain ss ss') :
    Alike K L.function (Completion.Alike A plain) (execList mode (n + 1) depth ss)
      (execList mode' (n + 1) depth ss') := by
  cases L.ofBlock hss with
  | nil => exact alike_next
  | cons hs hrest =>
    refine alike_checkpoint.bind fun _ _ _ => (h.exec plain depth _ _ hs).bind fun c c' hc => ?_
    obtain rfl := hc.eq
    cases c with
    | next => exact h.execList plain depth _ _ hrest
    | «return» value => exact alike_pure hc
  | «return» hs =>
    -- the rest of the block is not reached, whatever it is
    refine alike_checkpoint.bind fun _ _ _ => ?_
    cases L.ofStmt hs with
    | «return» hplain hvalue =>
      cases n with
      | zero => exact alike_cut
      | succ n => exact alike_pure (Completion.alike_return hplain hvalue)

theorem alike_loop (h : At K L n) (depth : Nat) (cond : Condition) {body body' : Program}
    {step step' : Option Stmt} (hbody : L.block (plain || mode != mode') body body')
    (hstep : Option.Rel (L.stmt false) step step') :
    Alike K L.function (Completion.Alike A plain)
      (loop mode (n + 1) depth cond body step) (loop mode' (n + 1) depth cond body' step') := by
  have hloop := h.loop plain depth cond body body' step step' hbody hstep
  refine alike_frame_bind fun f _ => ?_
  split
  · refine (h.execList _ depth body body' hbody).bind fun c c' hc => ?_
    have houtside := hc.outside
    generalize mode.outside c = o at houtside ⊢
    generalize mode'.outside c' = o' at houtside ⊢
    obtain rfl := houtside.eq
    cases o with
    | «return» value => exact alike_pure houtside
    | next =>
      refine alike_checkpoint.bind fun _ _ _ => ?_
      cases hstep with
      | none => exact hloop
      | some hs => exact (h.exec false depth _ _ hs).bind fun _ _ _ => hloop
  · exact alike_next

theorem alike_eval (h : At K L n) (depth : Nat) {e : Expr} (he : e.Over A) :
    Alike K L.function (Value.Alike A) (eval mode (n + 1) depth e)
      (eval mode' (n + 1) depth e) := by
  cases e with
  | int i => exact alike_pure ⟨rfl, trivial⟩
  | str t => exact alike_pure ⟨rfl, he t List.mem_cons_self⟩
  | binary left op right =>
    refine alike_frame_bind fun f hf => alike_pure ⟨rfl, ?_⟩
    exact Value.over_binary op (Frame.over_operand hf left) (Frame.over_operand hf right)
  | call name args => exact h.call depth name args he
  | absent => exact alike_fail nofun (A.utf8 _)

theorem alike_call (h : At K L n) (depth : Nat) {name : Token} {args : List Token}
    (hcall : ∀ t ∈ name :: args, A.text t) :
    Alike K L.function (Value.Alike A) (call mode (n + 1) depth name args)
      (call mode' (n + 1) depth name args) := by
  have hA := A.utf8
  obtain ⟨hname, hargs⟩ := List.forall_mem_cons.1 hcall
  refine alike_functions_bind fun t t' ht => ?_
  have hfound := ht.get? name
  generalize t.get? name = found at hfound ⊢
  generalize t'.get? name = found' at hfound ⊢
  cases hfound with
  | none =>
    exact alike_fail nofun (A.append (A.append (hA _) hname) (hA _))
  | @some f f' hf =>
    obtain ⟨hparams, hbody⟩ := hf
    dsimp only
    split
    · exact alike_fail nofun (A.append hname (hA _))
    · refine alike_frame_bind fun caller hcaller => ?_
      have hvalues : ∀ v ∈ args.map caller.argument, v.Over A := by
        intro v hv
        obtain ⟨t, ht, rfl⟩ := List.mem_map.1 hv
        exact Frame.over_argument hcaller (hargs t ht)
      rw [hparams]
      refine Alike.within (Frame.all_ofCall f'.params hvalues) ?_
      refine (h.execList false (depth + 1) f.body f'.body hbody).bind fun c c' hc => ?_
      obtain rfl := hc.eq
      cases c with
      | next => exact alike_pure ⟨rfl, trivial⟩
      | «return» value => exact h.eval (depth + 1) value (hc.texts value rfl)

/-- By induction on the bound. -/
theorem interpreterAt (K : Comparison A σ ρ) (L : Likeness A mode mode') (n : Nat) :
    At K L n := by
  induction n with
  | zero =>
    exact ⟨fun _ _ _ _ _ => alike_cut, fun _ _ _ _ _ => alike_cut,
      fun _ _ _ _ _ _ _ _ _ => alike_cut, fun _ _ _ => alike_cut, fun _ _ _ _ => alike_cut⟩
  | succ n ih =>
    exact ⟨fun _ depth _ _ hs => alike_exec ih depth hs,
      fun _ depth _ _ hss => alike_execList ih depth hss,
      fun _ depth cond _ _ _ _ hbody hstep => alike_loop ih depth cond hbody hstep,
      fun depth _ he => alike_eval ih depth he, fun depth _ _ hcall => alike_call ih depth hcall⟩

/-- At the top level a `return` is dropped under both modes. -/
theorem execTop (K : Comparison A σ ρ) (L : Likeness A mode mode') (n : Nat)
    {ss ss' : Program} (h : List.Forall₂ (L.stmt false) ss ss') :
    Alike K L.function Eq (execTop mode n ss) (execTop mode' n ss') := by
  induction h with
  | nil => exact alike_pure rfl
  | cons hs _ ih =>
    exact alike_checkpoint.bind fun _ _ _ =>
      ((interpreterAt K L n).exec false 0 _ _ hs).bind fun _ _ _ => ih

/-- Programs that are compared have dialogues as `K` asks, if it asks nothing else of reports. -/
theorem dialogue (K : Comparison A Report Report) (L : Likeness A mode mode') (n : Nat)
    (hdone : ∀ s s', RunState.Alike A L.function s s' →
      K.alike (.done ⟨.ok (), s.frame, s.functions⟩) (.done ⟨.ok (), s'.frame, s'.functions⟩))
    (hstop : ∀ e s s', RunState.Alike A L.function s s' → K.stopped e
      (.done ⟨.error e, s.frame, s.functions⟩) (.done ⟨.error e, s'.frame, s'.functions⟩))
    {p p' : Program} (h : List.Forall₂ (L.stmt false) p p') :
    K.alike (p.dialogue mode n) (p'.dialogue mode' n) :=
  execTop K L n h _ _ _ _ (RunState.alike_empty _ _) ⟨fun _ _ s s' _ hs => hdone s s' hs, hstop⟩

end Likeness

end Scriptlet
