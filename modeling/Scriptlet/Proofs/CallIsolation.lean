import Scriptlet.Proofs.Comparison

/-!
# Scriptlet.Proofs.CallIsolation — what a call has from its caller

A call runs in a frame of its own, which is filled with the values of the arguments.  So all that it
can learn of its caller are these values, and all that it leaves behind are its result, the lines
and requests of its dialogue, and the functions it defined.

* `d.andThen f`: the dialogue `d`, and then the dialogue that `f` makes of its result.
* `callDialogue`: a call taken by itself.  In whatever place of a run a call stands, it is this
  dialogue, and what follows goes on in the frame of the caller, which is as it was
  (`call_eq_andThen`).

That a call can be taken out of its context is a comparison of the run with itself, where the one
dialogue goes on after the other (`Comparison.andThen`).
-/

namespace Scriptlet

variable {ρ σ α : Type}

/-! ### One dialogue after the other -/

/-- The dialogue `d`, and then the one that its result calls for. -/
def Dialogue.andThen : Dialogue σ → (σ → Dialogue ρ) → Dialogue ρ
  | .done result, f => f result
  | .say text next, f => .say text (next.andThen f)
  | .ask name next, f => .ask name fun answer => (next answer).andThen f
  | .poll next, f => .poll fun cancelled => (next cancelled).andThen f
  | .cut, _ => .cut

/-- The dialogue on the right is the one on the left, and then what `f` makes of its result. -/
def Comparison.andThen (f : σ → Dialogue ρ) : Comparison .any σ ρ where
  alike d d' := d.andThen f = d'
  stopped _ d d' := d.andThen f = d'
  cut := rfl
  say _ h := congrArg (Dialogue.say _) h
  ask _ hok hstop := by
    refine congrArg (Dialogue.ask _) (funext fun answer => ?_)
    cases answer with
    | ok raw => exact hok raw trivial
    | error fault => exact hstop fault
  poll hgo hstop := by
    refine congrArg Dialogue.poll (funext fun cancelled => ?_)
    cases cancelled with
    | false => exact hgo
    | true => exact hstop
  raise _ _ h := h

/-! ### The interpreter -/

open Scriptlet.Action

/-- `x` and `x'` are the same action, as part of dialogues with different results: what follows on
the result may as well be done after the action. -/
def Action.Steady (x' : Action σ α) (x : Action ρ α) : Prop :=
  ∀ s k f, (x' s k).andThen f = x s fun r s' => (k r s').andThen f

theorem Action.Alike.steady {mode : ReturnMode} {R : α → α → Prop} {x' : Action σ α}
    {x : Action ρ α} (h : ∀ f, Alike (.andThen f) (Likeness.same .any mode).function R x' x)
    (hR : ∀ a b, R a b → a = b) : Steady x' x := by
  intro s k f
  refine h f s s k _ (RunState.alike_refl Likeness.function_same_any s) ⟨?_, ?_⟩
  · intro a b s s' hab hs
    rw [hR a b hab, hs.eq fun _ _ => Likeness.eq_of_function_same]
    rfl
  · intro e s s' hs
    rw [hs.eq fun _ _ => Likeness.eq_of_function_same]
    rfl

section Steady

variable (mode : ReturnMode) (n depth : Nat)

theorem steady_exec (s : Stmt) :
    Steady (exec mode n depth s : Action σ _) (exec mode n depth s : Action ρ _) := by
  have halike (f : σ → Dialogue ρ) :=
    (Likeness.interpreterAt (.andThen f) (.same _ mode) n).exec false depth s s
      (Likeness.stmt_same_any (absurd · Bool.false_ne_true))
  exact Alike.steady halike fun _ _ h => h.eq

theorem steady_execList (ss : Program) :
    Steady (execList mode n depth ss : Action σ _) (execList mode n depth ss : Action ρ _) := by
  have halike (f : σ → Dialogue ρ) :=
    (Likeness.interpreterAt (.andThen f) (.same _ mode) n).execList false depth ss ss
      (Likeness.block_same_any (absurd · Bool.false_ne_true))
  exact Alike.steady halike fun _ _ h => h.eq

theorem steady_call (name : Token) (args : List Token) :
    Steady (call mode n depth name args : Action σ _) (call mode n depth name args : Action ρ _) := by
  have halike (f : σ → Dialogue ρ) :=
    (Likeness.interpreterAt (.andThen f) (.same _ mode) n).call depth name args fun _ _ => trivial
  exact Alike.steady halike fun _ _ h => h.1

end Steady

/-- The body of a function, and then its result.  The frame is that of the callee. -/
def callBody (mode : ReturnMode) (n depth : Nat) (f : Function) : Action ρ Value := do
  match ← execList mode n (depth + 1) f.body with
  | .next => return .undefined
  | .return value => eval mode n (depth + 1) value

/-! ### The frame of a call -/

namespace Frame

/-- Bindings that are made one after the other: the last one of a name counts. -/
theorem get?_foldl_set (bindings : List (Token × Value)) (f : Frame) (x : Token) (v : Value) :
    (bindings.foldl (fun f b => f.set b.1 b.2) f).get? x = some v ↔
      (∃ before after, bindings = before ++ (x, v) :: after ∧ x ∉ after.map (·.1)) ∨
        (x ∉ bindings.map (·.1) ∧ f.get? x = some v) := by
  induction bindings generalizing f with
  | nil => simp
  | cons b bindings ih =>
    obtain ⟨y, w⟩ := b
    rw [List.foldl_cons, ih]
    constructor
    · rintro (⟨before, after, rfl, hafter⟩ | ⟨hx, hget⟩)
      · exact .inl ⟨(y, w) :: before, after, rfl, hafter⟩
      · rw [Table.get?_set] at hget
        by_cases hxy : x = y
        · rw [if_pos hxy] at hget
          obtain rfl := Option.some.inj hget
          exact .inl ⟨[], bindings, by rw [hxy]; rfl, hx⟩
        · rw [if_neg hxy] at hget
          refine .inr ⟨?_, hget⟩
          simpa [hxy] using hx
    · rintro (⟨before, after, heq, hafter⟩ | ⟨hx, hget⟩)
      · cases before with
        | nil =>
          obtain ⟨hb, rfl⟩ := List.cons.inj heq
          obtain ⟨rfl, rfl⟩ := Prod.mk.inj hb
          exact .inr ⟨hafter, by rw [Table.get?_set, if_pos rfl]⟩
        | cons b' before =>
          obtain ⟨rfl, rfl⟩ := List.cons.inj heq
          exact .inl ⟨before, after, rfl, hafter⟩
      · have hne : x ≠ y := by
          rintro rfl
          simp at hx
        refine .inr ⟨fun hmem => hx (List.mem_cons_of_mem _ hmem), ?_⟩
        rw [Table.get?_set, if_neg hne]
        exact hget

/-- The frame of a call binds the parameters that have an argument, each to the value of the last
argument for its name, and nothing else. -/
theorem get?_ofCall (caller : Frame) (params args : List Token) (x : Token) (v : Value) :
    (ofCall params (args.map caller.argument)).get? x = some v ↔
      ∃ before t after, params.zip args = before ++ (x, t) :: after ∧ x ∉ after.map (·.1) ∧
        caller.argument t = v := by
  have hzip : params.zip (args.map caller.argument) =
      (params.zip args).map fun b => (b.1, caller.argument b.2) := List.zip_map_right
  have hnames : ∀ bindings : List (Token × Token),
      (bindings.map fun b => (b.1, caller.argument b.2)).map (·.1) = bindings.map (·.1) := by
    intro bindings
    rw [List.map_map]
    rfl
  have hempty : (∅ : Frame).get? x ≠ some v := nofun
  unfold ofCall
  rw [get?_foldl_set, hzip]
  constructor
  · rintro (⟨before, after, heq, hafter⟩ | ⟨-, hget⟩)
    · obtain ⟨before', rest, hsplit, rfl, hrest⟩ := List.map_eq_append_iff.1 heq
      obtain ⟨⟨y, t⟩, after', rfl, hb, rfl⟩ := List.map_eq_cons_iff.1 hrest
      obtain ⟨rfl, rfl⟩ := Prod.mk.inj hb
      rw [hnames] at hafter
      exact ⟨before', t, after', hsplit, hafter, rfl⟩
    · exact absurd hget hempty
  · rintro ⟨before, t, after, hsplit, hafter, rfl⟩
    refine .inl ⟨before.map fun b => (b.1, caller.argument b.2),
      after.map fun b => (b.1, caller.argument b.2), ?_, ?_⟩
    · rw [hsplit, List.map_append, List.map_cons]
    · rw [hnames]
      exact hafter

end Frame

/-! ### Calls -/

section Call

variable {mode : ReturnMode} {n depth : Nat} {name : Token} {args args' : List Token}

/-- A call taken by itself: what it says and asks, and in the end its value or its failure and the
functions it leaves. -/
def callDialogue (mode : ReturnMode) (n depth : Nat) (name : Token) (args : List Token)
    (s : RunState) : Dialogue (Except RunError Value × FunctionTable) :=
  call mode n depth name args s fun r s' => .done (r, s'.functions)

/-- The arguments of two calls of a function, each in the frame of its caller, come to the same as
far as there are parameters for them: they are equally many and have the same values. -/
def SameArguments (functions : FunctionTable) (name : Token) (caller : Frame) (args : List Token)
    (caller' : Frame) (args' : List Token) : Prop :=
  ∀ f, functions.get? name = some f →
    (args.take f.params.length).map caller.argument =
      (args'.take f.params.length).map caller'.argument

theorem zip_take (params : List Token) (values : List Value) :
    params.zip (values.take params.length) = params.zip values := by
  induction params generalizing values with
  | nil => rfl
  | cons p params ih =>
    cases values with
    | nil => rfl
    | cons v values => exact congrArg (List.cons (p, v)) (ih values)

/-- Arguments beyond the parameters do not matter for the frame of the call. -/
theorem ofCall_congr {params : List Token} {caller caller' : Frame}
    (h : (args.take params.length).map caller.argument =
      (args'.take params.length).map caller'.argument) :
    Frame.ofCall params (args.map caller.argument) =
      Frame.ofCall params (args'.map caller'.argument) := by
  rw [List.map_take, List.map_take] at h
  unfold Frame.ofCall
  rw [← zip_take params (args.map caller.argument), h, zip_take]

theorem call_succ (mode : ReturnMode) (n depth : Nat) (name : Token) (args : List Token) :
    (call mode (n + 1) depth name args : Action ρ Value) = (do
      let table ← functions
      match table.get? name with
      | none => fail (.functionNotFound name)
      | some f =>
        if maxCallDepth ≤ depth then fail (.callDepth name)
        else
          let caller ← frame
          within (.ofCall f.params (args.map caller.argument)) (callBody mode n depth f)) := rfl

/-- A call that is carried out runs the body of the function in the frame of the call. -/
theorem call_of_get? {s : RunState} {f : Function} (hf : s.functions.get? name = some f)
    (hdepth : depth < maxCallDepth) (k : Continuation ρ Value) :
    call mode (n + 1) depth name args s k =
      callBody mode n depth f ⟨.ofCall f.params (args.map s.frame.argument), s.functions⟩
        fun r s' => k r { s' with frame := s.frame } := by
  rw [call_succ]
  show (match s.functions.get? name with | none => _ | some f => _ : Action ρ Value) s k = _
  rw [hf]
  dsimp only
  rw [if_neg (Nat.not_le_of_lt hdepth)]
  rfl

theorem call_of_none {s : RunState} (hf : s.functions.get? name = none)
    (k : Continuation ρ Value) :
    call mode (n + 1) depth name args s k = k (.error (.functionNotFound name)) s := by
  rw [call_succ]
  show (match s.functions.get? name with | none => _ | some f => _ : Action ρ Value) s k = _
  rw [hf]
  rfl

theorem call_of_depth {s : RunState} {f : Function} (hf : s.functions.get? name = some f)
    (hdepth : maxCallDepth ≤ depth) (k : Continuation ρ Value) :
    call mode (n + 1) depth name args s k = k (.error (.callDepth name)) s := by
  rw [call_succ]
  show (match s.functions.get? name with | none => _ | some f => _ : Action ρ Value) s k = _
  rw [hf]
  dsimp only
  rw [if_pos hdepth]
  rfl

/-- Calls of one function with the same arguments are the same up to the frames of the callers. -/
theorem call_congr {functions : FunctionTable} {caller caller' : Frame}
    (h : SameArguments functions name caller args caller' args') {k k' : Continuation ρ Value}
    (hk : ∀ r t, k r ⟨caller, t⟩ = k' r ⟨caller', t⟩) :
    call mode n depth name args ⟨caller, functions⟩ k =
      call mode n depth name args' ⟨caller', functions⟩ k' := by
  cases n with
  | zero => rfl
  | succ n =>
    cases hf : functions.get? name with
    | none =>
      rw [call_of_none hf, call_of_none hf]
      exact hk _ functions
    | some f =>
      by_cases hdepth : maxCallDepth ≤ depth
      · rw [call_of_depth hf hdepth, call_of_depth hf hdepth]
        exact hk _ functions
      · have hlt : depth < maxCallDepth := Nat.lt_of_not_le hdepth
        have hentry := ofCall_congr (h f hf)
        rw [call_of_get? hf hlt, call_of_get? hf hlt, hentry]
        congr 1
        funext r s'
        exact hk r s'.functions

/-- Wherever a call stands, it is the same dialogue, and what follows goes on in the frame of the
caller as it was. -/
theorem call_eq_andThen (s : RunState) (k : Continuation ρ Value) :
    call mode n depth name args s k =
      (callDialogue mode n depth name args s).andThen fun x => k x.1 ⟨s.frame, x.2⟩ := by
  rw [callDialogue, steady_call mode n depth name args]
  exact call_congr (fun _ _ => rfl) fun _ _ => rfl

end Call

/-- **A call is isolated from its caller.**

* In whatever context a call stands, it is a dialogue of its own, `callDialogue`, which ends with its
  value or its failure and with the functions it leaves.  What follows goes on in the frame of the
  caller, which is as it was before the call.
* This dialogue is the same for any two callers whose arguments have the same values, as far as
  there are parameters for them.
* A call that is carried out runs the body of the function in a frame that binds the parameters with
  an argument, each to the value of the last argument given for it, and nothing else. -/
theorem call_isolated (mode : ReturnMode) (n depth : Nat) (name : Token) :
    (∀ (ρ : Type) (args : List Token) (s : RunState) (k : Continuation ρ Value),
      call mode n depth name args s k =
        (callDialogue mode n depth name args s).andThen fun x => k x.1 ⟨s.frame, x.2⟩) ∧
    (∀ (functions : FunctionTable) (caller caller' : Frame) (args args' : List Token),
      SameArguments functions name caller args caller' args' →
        callDialogue mode n depth name args ⟨caller, functions⟩ =
          callDialogue mode n depth name args' ⟨caller', functions⟩) ∧
    ∀ (args : List Token) (s : RunState) (f : Function), s.functions.get? name = some f →
      depth < maxCallDepth → ∃ entry : Frame,
        callDialogue mode (n + 1) depth name args s =
            callBody mode n depth f ⟨entry, s.functions⟩ (fun r s' => .done (r, s'.functions)) ∧
          ∀ x v, entry.get? x = some v ↔
            ∃ before t after, f.params.zip args = before ++ (x, t) :: after ∧
              x ∉ after.map (·.1) ∧ s.frame.argument t = v := by
  refine ⟨fun ρ args s k => call_eq_andThen s k, ?_, ?_⟩
  · intro functions caller caller' args args' h
    exact call_congr h fun _ _ => rfl
  · intro args s f hf hdepth
    refine ⟨.ofCall f.params (args.map s.frame.argument), call_of_get? hf hdepth _, ?_⟩
    exact Frame.get?_ofCall s.frame f.params args

/-- A function with two parameters of one name, called by two callers: one gives an argument too
many, the other has a variable with the name of the parameters. -/
theorem call_isolated_twice :
    let a := utf8 "a"
    let f : Function := ⟨[a, a], [.print a]⟩
    let functions : FunctionTable := (∅ : FunctionTable).set (utf8 "f") f
    let caller : Frame := (∅ : Frame).set (utf8 "x") (.text (utf8 "one"))
    let caller' : Frame :=
      ((∅ : Frame).set a (.text (utf8 "mine"))).set (utf8 "y") (.text (utf8 "one"))
    let args := [utf8 "\"zero\"", utf8 "x", utf8 "\"extra\""]
    let args' := [utf8 "\"zero\"", utf8 "y"]
    (SameArguments functions (utf8 "f") caller args caller' args' ∧ caller'.get? a ≠ none) ∧
      callDialogue .discard 9 0 (utf8 "f") args ⟨caller, functions⟩ =
        callDialogue .discard 9 0 (utf8 "f") args' ⟨caller', functions⟩ ∧
      ∃ entry : Frame, callDialogue .discard 10 0 (utf8 "f") args' ⟨caller', functions⟩ =
          callBody .discard 9 0 f ⟨entry, functions⟩ (fun r s' => .done (r, s'.functions)) ∧
        entry.get? a = some (.text (utf8 "one")) := by
  intro a f functions caller caller' args args'
  have hget : functions.get? (utf8 "f") = some f := rfl
  have hsame : SameArguments functions (utf8 "f") caller args caller' args' := by
    intro g hg
    obtain rfl := Option.some.inj (hget.symm.trans hg)
    rfl
  obtain ⟨-, hcallers, hentry⟩ := call_isolated .discard 9 0 (utf8 "f")
  obtain ⟨entry, hbody, hbinds⟩ := hentry args' ⟨caller', functions⟩ f hget (by decide)
  have hlast : entry.get? a = some (.text (utf8 "one")) :=
    (hbinds a _).2 ⟨[(a, utf8 "\"zero\"")], utf8 "y", [], rfl, nofun, rfl⟩
  exact ⟨⟨hsame, nofun⟩, hcallers functions caller caller' args args' hsame, entry, hbody, hlast⟩

end Scriptlet
