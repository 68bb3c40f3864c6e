import Scriptlet.Proofs.Course
import Scriptlet.Proofs.ParserExact

/-!
# Scriptlet.Proofs.Provenance — what is bound comes from the text of the program

At any moment of a run there is a frame for the top level and one for every call that has not
returned.  Each belongs to some code: the top level of the program, or the body of a function.  A
frame binds nothing but parameters of that function and targets of statements of that code, and the
function table holds nothing but functions of the program (`bindings_from_text`).

* `p.Has s`: the statement `s` stands in `p`, outside the bodies of the functions defined there.
* `p.Contains s`: the statement `s` stands anywhere in `p`.
* `m.activations`: the frames of a moment, the current one first, each with the function that it
  belongs to.
* `m.Traced p`: all code that is being executed or left to do at `m` comes from `p`, and so does
  all that is bound.  Every move keeps this (`Moment.Traced.moves`).
-/

namespace Scriptlet

/-! ### Statements of a program -/

/-- The statements directly inside a statement, those in the body of a function apart. -/
def Stmt.inner : Stmt → List Stmt
  | .ite _ body none => body
  | .ite _ body (some alternative) => body ++ alternative
  | .while _ body => body
  | .for init _ step body => init :: step :: body
  | _ => []

/-- The variable that a statement gives a value. -/
def Stmt.target? : Stmt → Option Token
  | .declare name _ => some name
  | .assign name _ => some name
  | .read name => some name
  | _ => none

/-- The expression of a statement. -/
def Stmt.value? : Stmt → Option Expr
  | .declare _ value => some value
  | .assign _ value => some value
  | .return value => some value
  | _ => none

/-- The condition of a statement. -/
def Stmt.condition? : Stmt → Option Condition
  | .ite cond _ _ => some cond
  | .while cond _ => some cond
  | .for _ cond _ _ => some cond
  | _ => none

namespace Program

/-- The statement stands in `p`, outside the bodies of the functions defined there. -/
inductive Has (p : Program) : Stmt → Prop
  | own {s : Stmt} (h : s ∈ p) : Has p s
  | inner {s t : Stmt} (h : Has p s) (ht : t ∈ s.inner) : Has p t

/-- The statement stands anywhere in `p`. -/
inductive Contains (p : Program) : Stmt → Prop
  | outside {s : Stmt} (h : p.Has s) : Contains p s
  | body {name : Token} {params : List Token} {body : List Stmt} {s : Stmt}
    (h : Contains p (.fun name params body)) (hs : Has body s) : Contains p s

/-- A function of the program, defined under the given name. -/
def Defines (p : Program) (name : Token) (f : Function) : Prop :=
  p.Contains (.fun name f.params f.body)

/-- The expression stands in `p`. -/
def HasExpr (p : Program) (e : Expr) : Prop := ∃ s, p.Contains s ∧ s.value? = some e

/-- The condition stands in `p`. -/
def HasCondition (p : Program) (c : Condition) : Prop := ∃ s, p.Contains s ∧ s.condition? = some c

/-- A call of the function `name` stands in `p`, as a statement or as an expression. -/
def Calls (p : Program) (name : Token) : Prop :=
  ∃ args, p.Contains (.call name args) ∨ p.HasExpr (.call name args)

/-- The statement stands in the code of an activation: in the body of the function that it belongs
to, or at the top level. -/
inductive Owns (p : Program) : Option Function → Stmt → Prop
  | top {s : Stmt} (h : p.Has s) : Owns p none s
  | body {name : Token} {f : Function} {s : Stmt} (hf : p.Defines name f)
    (h : Program.Has f.body s) : Owns p (some f) s

/-- An activation may bind the name: it is a parameter of the function or a target in its code. -/
inductive Binds (p : Program) : Option Function → Token → Prop
  | param {name : Token} {f : Function} {x : Token} (hf : p.Defines name f) (hx : x ∈ f.params) :
    Binds p (some f) x
  | target {owner : Option Function} {s : Stmt} {x : Token} (hs : p.Owns owner s)
    (hx : s.target? = some x) : Binds p owner x

variable {p : Program}

theorem Owns.contains {owner : Option Function} {s : Stmt} (h : p.Owns owner s) :
    p.Contains s := by
  cases h with
  | top h => exact .outside h
  | body hf h => exact .body hf h

theorem Owns.inner {owner : Option Function} {s t : Stmt} (h : p.Owns owner s)
    (ht : t ∈ s.inner) : p.Owns owner t := by
  cases h with
  | top h => exact .top (h.inner ht)
  | body hf h => exact .body hf (h.inner ht)

theorem Binds.of_top {x : Token} (h : p.Binds none x) : ∃ t, p.Has t ∧ t.target? = some x := by
  cases h with
  | target hs hx =>
    cases hs with
    | top hs => exact ⟨_, hs, hx⟩

theorem Binds.of_body {f : Function} {x : Token} (h : p.Binds (some f) x) :
    x ∈ f.params ∨ ∃ t, Program.Has f.body t ∧ t.target? = some x := by
  cases h with
  | param hf hx => exact .inl hx
  | target hs hx =>
    cases hs with
    | body hf hs => exact .inr ⟨_, hs, hx⟩

end Program

/-! ### Activations -/

mutual

/-- The function whose code is left to do; at the top level there is none. -/
def AfterStmt.owner : AfterStmt → Option Function
  | .top _ _ => none
  | .list _ _ _ rest => rest.owner
  | .ite rest => rest.owner
  | .pass _ _ _ rest => rest.owner
  | .loop _ _ _ rest => rest.owner
  | .body _ _ f _ _ => some f

def AfterValue.owner : AfterValue → Option Function
  | .bind _ rest => rest.owner
  | .drop rest => rest.owner
  | .result f _ _ => some f

end

mutual

/-- The activations of the callers, the latest first. -/
def AfterStmt.callers : AfterStmt → List (Option Function × Frame)
  | .top _ _ => []
  | .list _ _ _ rest => rest.callers
  | .ite rest => rest.callers
  | .pass _ _ _ rest => rest.callers
  | .loop _ _ _ rest => rest.callers
  | .body _ _ _ caller rest => (rest.owner, caller) :: rest.callers

def AfterValue.callers : AfterValue → List (Option Function × Frame)
  | .bind _ rest => rest.callers
  | .drop rest => rest.callers
  | .result _ caller rest => (rest.owner, caller) :: rest.callers

end

namespace Work

/-- The function whose code is being executed. -/
def owner : Work → Option Function
  | .exec _ _ _ rest => rest.owner
  | .list _ _ _ rest => rest.owner
  | .loop _ _ _ rest => rest.owner
  | .eval _ _ _ rest => rest.owner
  | .call _ _ _ _ rest => rest.owner
  | .top _ _ => none
  | .ended _ rest => rest.owner
  | .valued _ rest => rest.owner
  | .finished _ => none

def callers : Work → List (Option Function × Frame)
  | .exec _ _ _ rest => rest.callers
  | .list _ _ _ rest => rest.callers
  | .loop _ _ _ rest => rest.callers
  | .eval _ _ _ rest => rest.callers
  | .call _ _ _ _ rest => rest.callers
  | .top _ _ => []
  | .ended _ rest => rest.callers
  | .valued _ rest => rest.callers
  | .finished _ => []

end Work

/-- The frames of a moment, the current one first, each with the function that it belongs to.  The
frame of the top level is the one without a function. -/
def Moment.activations (m : Moment) : List (Option Function × Frame) :=
  (m.work.owner, m.state.frame) :: m.work.callers

/-! ### Code and bindings from the text -/

/-- The activation belongs to the top level or to a function of the program, and its frame binds
nothing but what it may. -/
structure Program.Accounts (p : Program) (owner : Option Function) (frame : Frame) : Prop where
  defined : ∀ f, owner = some f → ∃ name, p.Defines name f
  binds : ∀ x v, frame.get? x = some v → p.Binds owner x

/-- The code of a loop stands in the code of an activation. -/
structure LoopCode.Traced (p : Program) (owner : Option Function) (l : LoopCode) : Prop where
  cond : p.HasCondition l.cond
  body : ∀ s ∈ l.body, p.Owns owner s
  step : ∀ s ∈ l.step, p.Owns owner s

mutual

/-- All that is left to do comes from `p`, and the frames of the callers bind nothing else. -/
def AfterStmt.Traced (p : Program) : AfterStmt → Prop
  | .top _ ss => ∀ s ∈ ss, p.Has s
  | .list _ _ ss rest => (∀ s ∈ ss, p.Owns rest.owner s) ∧ rest.Traced p
  | .ite rest => rest.Traced p
  | .pass _ _ l rest => l.Traced p rest.owner ∧ rest.Traced p
  | .loop _ _ l rest => l.Traced p rest.owner ∧ rest.Traced p
  | .body _ _ _ caller rest => p.Accounts rest.owner caller ∧ rest.Traced p

def AfterValue.Traced (p : Program) : AfterValue → Prop
  | .bind name rest => p.Binds rest.owner name ∧ rest.Traced p
  | .drop rest => rest.Traced p
  | .result _ caller rest => p.Accounts rest.owner caller ∧ rest.Traced p

end

/-- A returned expression comes from `p`. -/
def Completion.Traced (p : Program) : Completion → Prop
  | .next => True
  | .return e => p.HasExpr e

def Work.Traced (p : Program) : Work → Prop
  | .exec _ _ s rest => p.Owns rest.owner s ∧ rest.Traced p
  | .list _ _ ss rest => (∀ s ∈ ss, p.Owns rest.owner s) ∧ rest.Traced p
  | .loop _ _ l rest => l.Traced p rest.owner ∧ rest.Traced p
  | .eval _ _ e rest => p.HasExpr e ∧ rest.Traced p
  | .call _ _ name _ rest => p.Calls name ∧ rest.Traced p
  | .top _ ss => ∀ s ∈ ss, p.Has s
  | .ended (.ok c) rest => c.Traced p ∧ rest.Traced p
  | .ended (.error _) rest => rest.Traced p
  | .valued _ rest => rest.Traced p
  | .finished _ => True

/-- All that is being done, is left to do, or is bound comes from `p`. -/
structure Moment.Traced (p : Program) (m : Moment) : Prop where
  work : m.work.Traced p
  frame : p.Accounts m.work.owner m.state.frame
  functions : ∀ name f, m.state.functions.get? name = some f → p.Defines name f

section Moves

variable {p : Program}

theorem Program.Accounts.set {owner : Option Function} {frame : Frame} (h : p.Accounts owner frame)
    {name : Token} (hname : p.Binds owner name) (v : Value) :
    p.Accounts owner (frame.set name v) := by
  refine ⟨h.defined, fun x w hx => ?_⟩
  rw [Table.get?_set] at hx
  by_cases hxname : x = name
  · rw [hxname]
    exact hname
  · rw [if_neg hxname] at hx
    exact h.binds x w hx

theorem Program.accounts_ofCall {name : Token} {f : Function} (hf : p.Defines name f)
    (caller : Frame) (args : List Token) :
    p.Accounts (some f) (.ofCall f.params (args.map caller.argument)) := by
  refine ⟨fun g hg => ⟨name, Option.some.inj hg ▸ hf⟩, fun x v hx => ?_⟩
  obtain ⟨before, t, after, hzip, -, -⟩ := (Frame.get?_ofCall caller f.params args x v).mp hx
  have hmem : (x, t) ∈ f.params.zip args := by
    rw [hzip]
    exact List.mem_append_right _ List.mem_cons_self
  exact .param hf (List.of_mem_zip hmem).1

theorem Completion.Traced.outside {c : Completion} (h : c.Traced p) (mode : ReturnMode) :
    (mode.outside c).Traced p := by
  cases mode with
  | discard => trivial
  | propagate => exact h

theorem LoopCode.Traced.again {l : LoopCode} {rest : AfterStmt} (hl : l.Traced p rest.owner)
    (hrest : rest.Traced p) (n depth : Nat) :
    (l.again n depth rest).Traced p ∧ (l.again n depth rest).owner = rest.owner := by
  obtain ⟨cond, body, step⟩ := l
  cases step with
  | none => exact ⟨⟨hl, hrest⟩, rfl⟩
  | some s => exact ⟨⟨hl.step s rfl, hl, hrest⟩, rfl⟩

theorem AfterStmt.Traced.skip {rest : AfterStmt} {σ : RunState} (hrest : rest.Traced p)
    (hframe : p.Accounts rest.owner σ.frame)
    (hfunctions : ∀ name f, σ.functions.get? name = some f → p.Defines name f) (e : RunError) :
    (rest.skip σ e).Traced p := by
  cases rest with
  | top n ss => exact ⟨trivial, hframe, hfunctions⟩
  | list n depth ss rest => exact ⟨hrest.2, hframe, hfunctions⟩
  | ite rest => exact ⟨hrest, hframe, hfunctions⟩
  | pass n depth l rest => exact ⟨hrest.2, hframe, hfunctions⟩
  | loop n depth l rest => exact ⟨hrest.2, hframe, hfunctions⟩
  | body n depth f caller rest => exact ⟨hrest.2, hrest.1, hfunctions⟩

theorem AfterValue.Traced.skip {after : AfterValue} {σ : RunState} (hafter : after.Traced p)
    (hframe : p.Accounts after.owner σ.frame)
    (hfunctions : ∀ name f, σ.functions.get? name = some f → p.Defines name f) (e : RunError) :
    (after.skip σ e).Traced p := by
  cases after with
  | bind name rest => exact ⟨hafter.2, hframe, hfunctions⟩
  | drop rest => exact ⟨hafter, hframe, hfunctions⟩
  | result f caller rest => exact ⟨hafter.2, hafter.1, hfunctions⟩

/-- The moves of a statement that stands in the code of the activation. -/
theorem Moment.Traced.moves_exec {mode : ReturnMode} {n depth : Nat} {s : Stmt} {rest : AfterStmt}
    {σ : RunState} {move : Move} (h : Moment.Traced p ⟨.exec n depth s rest, σ⟩)
    (hmove : Moment.Moves mode ⟨.exec n depth s rest, σ⟩ move) :
    move.All (Moment.Traced p) := by
  obtain ⟨⟨hs, hrest⟩, hframe, hfunctions⟩ := h
  cases hmove with
  | cut h => trivial
  | declare => exact ⟨⟨⟨_, hs.contains, rfl⟩, .target hs rfl, hrest⟩, hframe, hfunctions⟩
  | assign => exact ⟨⟨⟨_, hs.contains, rfl⟩, .target hs rfl, hrest⟩, hframe, hfunctions⟩
  | print => exact ⟨⟨trivial, hrest⟩, hframe, hfunctions⟩
  | read =>
    exact ⟨fun raw => ⟨⟨trivial, hrest⟩, hframe.set (.target hs rfl) _, hfunctions⟩,
      fun fault => ⟨hrest, hframe, hfunctions⟩⟩
  | @iteTrue cond body alternative =>
    refine ⟨⟨fun t ht => hs.inner ?_, hrest⟩, hframe, hfunctions⟩
    cases alternative with
    | none => exact ht
    | some body' => exact List.mem_append_left _ ht
  | iteFalse h =>
    exact ⟨⟨fun t ht => hs.inner (List.mem_append_right _ ht), hrest⟩, hframe, hfunctions⟩
  | iteNone h => exact ⟨⟨trivial, hrest⟩, hframe, hfunctions⟩
  | @«while» cond body =>
    have hl : LoopCode.Traced p rest.owner ⟨cond, body, none⟩ :=
      ⟨⟨_, hs.contains, rfl⟩, fun t ht => hs.inner ht, by simp⟩
    exact ⟨⟨hl, hrest⟩, hframe, hfunctions⟩
  | @«for» init step cond body =>
    have hl : LoopCode.Traced p rest.owner ⟨cond, body, some step⟩ := by
      refine ⟨⟨_, hs.contains, rfl⟩, fun t ht => hs.inner (by simp [Stmt.inner, ht]), ?_⟩
      intro t ht
      exact hs.inner (by simp [Stmt.inner, Option.mem_some.mp ht])
    exact ⟨⟨hs.inner List.mem_cons_self, hl, hrest⟩, hframe, hfunctions⟩
  | @«fun» params body _ _ name =>
    refine ⟨⟨trivial, hrest⟩, hframe, fun x f hx => ?_⟩
    rw [Table.get?_set] at hx
    by_cases hxname : x = name
    · rw [if_pos hxname] at hx
      obtain rfl := Option.some.inj hx
      rw [hxname]
      exact hs.contains
    · rw [if_neg hxname] at hx
      exact hfunctions x f hx
  | call => exact ⟨⟨⟨_, .inl hs.contains⟩, hrest⟩, hframe, hfunctions⟩
  | «return» => exact ⟨⟨⟨_, hs.contains, rfl⟩, hrest⟩, hframe, hfunctions⟩
  | absent => exact ⟨hrest, hframe, hfunctions⟩

/-- The moves after a statement that was executed. -/
theorem Moment.Traced.moves_ended {mode : ReturnMode} {c : Completion} {rest : AfterStmt}
    {σ : RunState} {move : Move} (h : Moment.Traced p ⟨.ended (.ok c) rest, σ⟩)
    (hmove : Moment.Moves mode ⟨.ended (.ok c) rest, σ⟩ move) :
    move.All (Moment.Traced p) := by
  obtain ⟨⟨hc, hrest⟩, hframe, hfunctions⟩ := h
  cases hmove with
  | cut h => trivial
  | afterTop => exact ⟨hrest, hframe, hfunctions⟩
  | afterNext => exact ⟨hrest, hframe, hfunctions⟩
  | afterReturn => exact ⟨⟨hc, hrest.2⟩, hframe, hfunctions⟩
  | afterIte => exact ⟨⟨hc.outside mode, hrest⟩, hframe, hfunctions⟩
  | @passNext _ l n depth rest h =>
    obtain ⟨hwork, howner⟩ := hrest.1.again hrest.2 n depth
    exact ⟨⟨hrest.2, hframe, hfunctions⟩, hwork, howner ▸ hframe, hfunctions⟩
  | passReturn h =>
    have hvalue := hc.outside mode
    rw [h] at hvalue
    exact ⟨⟨hvalue, hrest.2⟩, hframe, hfunctions⟩
  | afterStep => exact ⟨hrest, hframe, hfunctions⟩
  | bodyNext => exact ⟨hrest.2, hrest.1, hfunctions⟩
  | bodyReturn => exact ⟨⟨hc, hrest⟩, hframe, hfunctions⟩

/-- Every move keeps to the text of the program. -/
theorem Moment.Traced.moves {mode : ReturnMode} {m : Moment} {move : Move} (h : m.Traced p)
    (hmove : m.Moves mode move) : move.All (Moment.Traced p) := by
  obtain ⟨work, σ⟩ := m
  cases work with
  | exec n depth s rest => exact h.moves_exec hmove
  | list n depth ss rest =>
    obtain ⟨⟨hss, hrest⟩, hframe, hfunctions⟩ := h
    cases hmove with
    | cut h => trivial
    | nil => exact ⟨⟨trivial, hrest⟩, hframe, hfunctions⟩
    | cons =>
      obtain ⟨hs, hss⟩ := List.forall_mem_cons.mp hss
      exact ⟨⟨hrest, hframe, hfunctions⟩, ⟨hs, hss, hrest⟩, hframe, hfunctions⟩
  | loop n depth l rest =>
    obtain ⟨⟨hl, hrest⟩, hframe, hfunctions⟩ := h
    cases hmove with
    | cut h => trivial
    | loopTrue h => exact ⟨⟨hl.body, hl, hrest⟩, hframe, hfunctions⟩
    | loopFalse h => exact ⟨⟨trivial, hrest⟩, hframe, hfunctions⟩
  | eval n depth e after =>
    obtain ⟨⟨he, hafter⟩, hframe, hfunctions⟩ := h
    cases hmove with
    | cut h => trivial
    | callExpr => exact ⟨⟨⟨_, .inr he⟩, hafter⟩, hframe, hfunctions⟩
    | _ => exact ⟨hafter, hframe, hfunctions⟩
  | call n depth name args after =>
    obtain ⟨⟨-, hafter⟩, hframe, hfunctions⟩ := h
    cases hmove with
    | cut h => trivial
    | notFound h => exact ⟨hafter, hframe, hfunctions⟩
    | tooDeep h hdepth => exact ⟨hafter, hframe, hfunctions⟩
    | @enter _ f _ _ _ _ _ h hdepth =>
      have hf : p.Defines name f := hfunctions name f h
      exact ⟨⟨fun s hs => .body hf (.own hs), hframe, hafter⟩,
        Program.accounts_ofCall hf σ.frame args, hfunctions⟩
  | top n ss =>
    obtain ⟨hss, hframe, hfunctions⟩ := h
    cases hmove with
    | cut h => trivial
    | topNil => exact ⟨trivial, hframe, hfunctions⟩
    | topCons =>
      obtain ⟨hs, hss⟩ := List.forall_mem_cons.mp hss
      exact ⟨⟨trivial, hframe, hfunctions⟩, ⟨.top hs, hss⟩, hframe, hfunctions⟩
  | ended r rest =>
    cases r with
    | ok c => exact h.moves_ended hmove
    | error e =>
      cases hmove with
      | cut h => trivial
      | failed => exact AfterStmt.Traced.skip h.work h.frame h.functions e
  | valued r after =>
    obtain ⟨hafter, hframe, hfunctions⟩ := h
    cases hmove with
    | cut h => trivial
    | bind => exact ⟨⟨trivial, hafter.2⟩, hframe.set hafter.1 _, hfunctions⟩
    | drop => exact ⟨⟨trivial, hafter⟩, hframe, hfunctions⟩
    | result => exact ⟨hafter.2, hafter.1, hfunctions⟩
    | failedExpr => exact hafter.skip hframe hfunctions _
  | finished r =>
    cases hmove with
    | cut h => trivial
    | finished => trivial

theorem Moment.traced_start (p : Program) (n : Nat) : (Moment.start p n).Traced p := by
  refine ⟨fun s hs => .own hs, ⟨fun f hf => ?_, fun x v hx => ?_⟩, fun name f hf => ?_⟩
  · cases hf
  · cases hx
  · cases hf

theorem Moment.Traced.step {mode : ReturnMode} {context : Context} {x y : Moment × Console}
    (hx : x.1.Traced p) (h : Moment.Step mode context x y) : y.1.Traced p := by
  obtain ⟨move, hmove, hleads⟩ := h
  exact hleads.of_all (hx.moves hmove)

/-- All moments of a run are traced to its program. -/
theorem Moment.traced_of_reaches {mode : ReturnMode} {context : Context} {n : Nat} {c : Console}
    {x : Moment × Console} (h : Moment.Reaches mode context (.start p n, c) x) : x.1.Traced p :=
  h.invariant (P := fun x => x.1.Traced p) (Moment.traced_start p n) fun _ _ hx hstep =>
    hx.step hstep

mutual

theorem AfterStmt.accounts_callers :
    (rest : AfterStmt) → rest.Traced p → ∀ a ∈ rest.callers, p.Accounts a.1 a.2
  | .top _ _, _ => by simp [AfterStmt.callers]
  | .list _ _ _ rest, h => rest.accounts_callers h.2
  | .ite rest, h => rest.accounts_callers h
  | .pass _ _ _ rest, h => rest.accounts_callers h.2
  | .loop _ _ _ rest, h => rest.accounts_callers h.2
  | .body _ _ _ _ rest, h => List.forall_mem_cons.mpr ⟨h.1, rest.accounts_callers h.2⟩

theorem AfterValue.accounts_callers :
    (rest : AfterValue) → rest.Traced p → ∀ a ∈ rest.callers, p.Accounts a.1 a.2
  | .bind _ rest, h => rest.accounts_callers h.2
  | .drop rest, h => rest.accounts_callers h
  | .result _ _ rest, h => List.forall_mem_cons.mpr ⟨h.1, rest.accounts_callers h.2⟩

end

theorem Moment.Traced.accounts {m : Moment} (h : m.Traced p) :
    ∀ a ∈ m.activations, p.Accounts a.1 a.2 := by
  obtain ⟨hwork, hframe, -⟩ := h
  refine List.forall_mem_cons.mpr ⟨hframe, ?_⟩
  obtain ⟨work, σ⟩ := m
  cases work with
  | exec n depth s rest => exact rest.accounts_callers hwork.2
  | list n depth ss rest => exact rest.accounts_callers hwork.2
  | loop n depth l rest => exact rest.accounts_callers hwork.2
  | eval n depth e rest => exact rest.accounts_callers hwork.2
  | call n depth name args rest => exact rest.accounts_callers hwork.2
  | top n ss => simp [Work.callers]
  | ended r rest =>
    cases r with
    | ok c => exact rest.accounts_callers hwork.2
    | error e => exact rest.accounts_callers hwork
  | valued r rest => exact rest.accounts_callers hwork
  | finished r => simp [Work.callers]

end Moves

/-! ### Names are identifiers -/

theorem Program.wellFormed_iff {p : Program} : p.WellFormed ↔ ∀ s ∈ p, s.WellFormed := by
  induction p with
  | nil => simp [Program.WellFormed]
  | cons s ss ih => rw [Program.WellFormed, ih, List.forall_mem_cons]

theorem Stmt.WellFormed.inner {s t : Stmt} (h : s.WellFormed) (ht : t ∈ s.inner) :
    t.WellFormed := by
  cases s with
  | ite cond body alternative =>
    cases alternative with
    | none => exact Program.wellFormed_iff.mp h.2 t ht
    | some body' =>
      rcases List.mem_append.mp ht with ht | ht
      · exact Program.wellFormed_iff.mp h.2.1 t ht
      · exact Program.wellFormed_iff.mp h.2.2 t ht
  | «while» cond body => exact Program.wellFormed_iff.mp h.2 t ht
  | «for» init cond step body =>
    obtain ⟨hinit, -, hstep, hbody⟩ := h
    rcases List.mem_cons.mp ht with rfl | ht
    · exact hinit
    · rcases List.mem_cons.mp ht with rfl | ht
      · exact hstep
      · exact Program.wellFormed_iff.mp hbody t ht
  | _ => cases ht

theorem Program.WellFormed.has {p : Program} (h : p.WellFormed) {s : Stmt} (hs : p.Has s) :
    s.WellFormed := by
  induction hs with
  | own hs => exact Program.wellFormed_iff.mp h _ hs
  | inner _ ht ih => exact ih.inner ht

theorem Program.WellFormed.contains {p : Program} (h : p.WellFormed) {s : Stmt}
    (hs : p.Contains s) : s.WellFormed := by
  induction hs with
  | outside hs => exact h.has hs
  | body _ hs ih => exact Program.WellFormed.has ih.2.2 hs

theorem Program.WellFormed.isIdent {p : Program} (h : p.WellFormed) {owner : Option Function}
    {x : Token} (hx : p.Binds owner x) : x.isIdent := by
  cases hx with
  | param hf hx => exact (h.contains hf).2.1 x hx
  | @target _ s _ hs hx =>
    have hw := h.contains hs.contains
    cases s with
    | declare name value => exact Option.some.inj hx ▸ hw.1
    | assign name value => exact Option.some.inj hx ▸ hw.1.1
    | read name => exact Option.some.inj hx ▸ hw
    | _ => cases hx

/-- The parser accepts well-formed programs only. -/
theorem wellFormed_of_parse {tokens : List Token} {p : Program} (h : parse tokens = .ok p) :
    p.WellFormed :=
  (Syntax.programReader_sound (parse_eq_ok.mp h)).1

/-- In a frame that binds identifiers only, any other token stands for itself. -/
theorem Frame.operand_shown_of_not_isIdent {frame : Frame}
    (h : ∀ x v, frame.get? x = some v → x.isIdent) {t : Token} (ht : ¬ t.isIdent) :
    (Integer.parse? t = none → frame.operand t = .undefined) ∧ frame.shown t = t := by
  have hnone : frame.get? t = none := by
    cases hv : frame.get? t with
    | none => rfl
    | some v => exact absurd (h t v hv) ht
  refine ⟨fun hint => ?_, ?_⟩
  · rw [Frame.operand, hint, hnone]
    rfl
  · rw [Frame.shown, hnone]

/-! ### Definitions are never undone -/

namespace Moment

variable {mode : ReturnMode} {context : Context} {x y : Moment × Console} {name : Token}

/-- There is a function of that name. -/
def Knows (m : Moment) (name : Token) : Prop := ∃ f, m.state.functions.get? name = some f

theorem Keeps.knows {m m' : Moment} (h : m.Keeps m') (hm : m.Knows name) : m'.Knows name := by
  obtain ⟨f, hf⟩ := hm
  rcases h with h | ⟨other, params, body, -, h⟩
  · exact ⟨f, by rw [h, hf]⟩
  · unfold Knows
    rw [h, Table.get?_set]
    by_cases hname : name = other
    · exact ⟨⟨params, body⟩, if_pos hname⟩
    · exact ⟨f, by rw [if_neg hname, hf]⟩

theorem Step.keeps (h : Step mode context x y) : x.1.Keeps y.1 := by
  obtain ⟨move, hmove, hleads⟩ := h
  exact hleads.of_all hmove.keeps

theorem Reaches.knows (h : Reaches mode context x y) (hx : x.1.Knows name) : y.1.Knows name :=
  h.invariant (P := fun x => x.1.Knows name) hx fun _ _ hx hstep => hstep.keeps.knows hx

theorem Step.knows_of_executes (h : Step mode context x y) {params : List Token} {body : List Stmt}
    (hx : x.1.Executes (.fun name params body)) : y.1.Knows name := by
  obtain ⟨⟨work, σ⟩, c⟩ := x
  obtain ⟨n, depth, rest, rfl⟩ := hx
  obtain ⟨move, hmove, hleads⟩ := h
  cases hmove with
  | cut h => cases h
  | «fun» =>
    cases hleads
    exact ⟨⟨params, body⟩, by rw [Table.get?_set, if_pos rfl]⟩

/-- No call fails for want of a function `name`: there is one, or it is just being defined. -/
structure Assures (m : Moment) (name : Token) : Prop where
  known : (∃ params body, m.Executes (.fun name params body)) ∨ m.Knows name
  found : m.failure? ≠ some (.functionNotFound name)

theorem Executes.assures {m : Moment} {params : List Token} {body : List Stmt}
    (h : m.Executes (.fun name params body)) : m.Assures name := by
  refine ⟨.inl ⟨params, body, h⟩, ?_⟩
  obtain ⟨n, depth, rest, hwork⟩ := h
  simp [failure?, hwork]

theorem Assures.not_raises {m : Moment} (h : m.Assures name) :
    ¬ m.Raises (.functionNotFound name) := by
  intro hraises
  cases hraises with
  | functionNotFound hcalls hnone =>
    rcases h.known with ⟨params, body, n, depth, rest, hwork⟩ | ⟨f, hf⟩
    · obtain ⟨n', depth', args, after, hwork'⟩ := hcalls
      cases hwork.symm.trans hwork'
    · cases hnone.symm.trans hf

theorem Assures.step (hx : x.1.Assures name) (h : Step mode context x y) : y.1.Assures name := by
  refine ⟨.inr ?_, fun he => ?_⟩
  · rcases hx.known with ⟨params, body, hdef⟩ | hknows
    · exact h.knows_of_executes hdef
    · exact h.keeps.knows hknows
  · rcases h.failure he with ⟨he, -⟩ | hraises | ⟨other, fault, he, -⟩ | ⟨he, -⟩
    · exact hx.found he
    · exact hx.not_raises hraises
    · cases he
    · cases he

/-- After a definition of `name` no call fails for want of a function of that name. -/
theorem Reaches.failure_ne (h : Reaches mode context x y) {params : List Token} {body : List Stmt}
    (hx : x.1.Executes (.fun name params body)) :
    y.1.failure? ≠ some (.functionNotFound name) :=
  (h.invariant (P := fun x => x.1.Assures name) hx.assures fun _ _ hx hstep => hx.step hstep).found

theorem moves_print {m : Moment} {t : Token} (h : m.Executes (.print t)) :
    ∃ next, m.Moves mode (.say (m.state.frame.shown t) next) := by
  obtain ⟨work, σ⟩ := m
  obtain ⟨n, depth, rest, rfl⟩ := h
  exact ⟨_, .print⟩

end Moment

/-- **What is bound comes from the text of the program.**  Let `s` be a session with a program from
the parser.  The moments of a run are the points of its dialogue, and at each of them:

* a name in the frame of the top level is the target of a statement outside all functions;
* a name in the frame of a call is a parameter of the function or the target of a statement of its
  body, outside the functions defined there, and the function is one of the program;
* a function in the table is one of the program;
* so names are identifiers; any other token is undefined as an operand, unless it is an integer in
  range, and is printed as it is;
* no function is lost later, and once a definition is executed, no later call fails for want of it.

The same holds of what a run leaves behind, and of how it ends. -/
theorem bindings_from_text {tokens : List Token} {s : Session} (hp : parse tokens = .ok s.program)
    (context : Context) (n : Nat) :
    (∀ d c, (s.program.dialogue s.mode n).Reaches context s.console d c ↔
      ∃ m, s.Passes context n (m, c) ∧ m.dialogue s.mode = d) ∧
    (∀ m c, s.Passes context n (m, c) →
      (∀ frame x v, (none, frame) ∈ m.activations → frame.get? x = some v →
        ∃ t, s.program.Has t ∧ t.target? = some x) ∧
      (∀ f frame, (some f, frame) ∈ m.activations → (∃ name, s.program.Defines name f) ∧
        ∀ x v, frame.get? x = some v →
          x ∈ f.params ∨ ∃ t, Program.Has f.body t ∧ t.target? = some x) ∧
      (∀ name f, m.state.functions.get? name = some f →
        s.program.Defines name f ∧ name.isIdent) ∧
      (∀ owner frame, (owner, frame) ∈ m.activations →
        (∀ x v, frame.get? x = some v → x.isIdent) ∧
        ∀ t : Token, ¬ t.isIdent →
          (Integer.parse? t = none → frame.operand t = .undefined) ∧ frame.shown t = t) ∧
      (∀ t : Token, ¬ t.isIdent → m.Executes (.print t) → ∃ next, m.Moves s.mode (.say t next)) ∧
      ∀ m' c', Moment.Reaches s.mode context (m, c) (m', c') →
        (∀ name f, m.state.functions.get? name = some f →
          ∃ f', m'.state.functions.get? name = some f') ∧
        ∀ name params body, m.Executes (.fun name params body) →
          m'.failure? ≠ some (.functionNotFound name)) ∧
    ∀ r s', s.run context n = some (r, s') →
      (∀ x v, s'.globals.get? x = some v → ∃ t, s.program.Has t ∧ t.target? = some x) ∧
      (∀ name f, s'.functions.get? name = some f → s.program.Defines name f) ∧
      ∀ name, r.result = .error (.functionNotFound name) → ∀ m c params body,
        s.Passes context n (m, c) → ¬ m.Executes (.fun name params body) := by
  have hw := wellFormed_of_parse hp
  refine ⟨fun d c => Session.reaches_iff_passes, fun m c hpasses => ?_, fun r s' hrun => ?_⟩
  · have htraced := Moment.traced_of_reaches hpasses
    have hident : ∀ owner frame, (owner, frame) ∈ m.activations →
        ∀ x v, frame.get? x = some v → x.isIdent := by
      intro owner frame ha x v hx
      exact hw.isIdent ((htraced.accounts _ ha).binds x v hx)
    refine ⟨?_, ?_, ?_, ?_, ?_, ?_⟩
    · intro frame x v ha hx
      exact ((htraced.accounts _ ha).binds x v hx).of_top
    · intro f frame ha
      have haccounts := htraced.accounts _ ha
      exact ⟨haccounts.defined f rfl, fun x v hx => (haccounts.binds x v hx).of_body⟩
    · intro name f hf
      have hdefines := htraced.functions name f hf
      exact ⟨hdefines, (hw.contains hdefines).1⟩
    · intro owner frame ha
      have hnames := hident owner frame ha
      exact ⟨hnames, fun t ht => Frame.operand_shown_of_not_isIdent hnames ht⟩
    · intro t ht hprint
      obtain ⟨next, hmove⟩ : ∃ next, m.Moves s.mode (.say (m.state.frame.shown t) next) :=
        Moment.moves_print hprint
      have hnames := hident m.work.owner m.state.frame List.mem_cons_self
      rw [(Frame.operand_shown_of_not_isIdent hnames ht).2] at hmove
      exact ⟨next, hmove⟩
    · intro m' c' hlater
      exact ⟨fun name f hf => hlater.knows ⟨f, hf⟩,
        fun name params body hdef => hlater.failure_ne hdef⟩
  · obtain ⟨c, -, hpasses, hlast⟩ := Session.exists_last hrun
    have htraced := Moment.traced_of_reaches hpasses
    refine ⟨fun x v hx => (htraced.frame.binds x v hx).of_top, htraced.functions,
      fun name hname m c' params body hpasses' hdef => ?_⟩
    refine (hlast _ hpasses').failure_ne hdef ?_
    rw [Moment.failure?, hname]

/-- A function prints a token that is no identifier, and is called with a variable. -/
theorem bindings_from_text_print :
    let x := utf8 "x"
    let a := utf8 "a"
    let f := utf8 "f"
    let s := Session.new
      [.declare x (.str (utf8 "s")), .fun f [a] [.print (utf8 "%")], .call f [x]]
    parse (["int", "x", "=", "\"s\"", ";", "fun", "f", "(", "a", ")", "\x7b", "print", "%", ";",
        "\x7d", "f", "(", "x", ")", ";"].map utf8) = .ok s.program ∧
      ∃ m c, s.Passes .never 5 (m, c) ∧
        m.activations.map (·.2.entries.map (·.1)) = [[a], [x]] ∧
        (∀ owner frame, (owner, frame) ∈ m.activations →
          ∀ x v, frame.get? x = some v → x.isIdent) ∧
        ∃ next, m.Moves s.mode (.say (utf8 "%") next) := by
  intro x a f s
  have hp : parse (["int", "x", "=", "\"s\"", ";", "fun", "f", "(", "a", ")", "\x7b", "print", "%",
      ";", "\x7d", "f", "(", "x", ")", ";"].map utf8) = .ok s.program := rfl
  have hpasses : ∃ m c, s.Passes .never 5 (m, c) ∧ m.Executes (.print (utf8 "%")) ∧
      m.activations.map (·.2.entries.map (·.1)) = [[a], [x]] :=
    ⟨_, _, .head ⟨_, .topCons, .go rfl⟩ <| .head ⟨_, .declare, .silent⟩ <|
      .head ⟨_, .str, .silent⟩ <| .head ⟨_, .bind, .silent⟩ <| .head ⟨_, .afterTop, .silent⟩ <|
      .head ⟨_, .topCons, .go rfl⟩ <| .head ⟨_, .fun, .silent⟩ <| .head ⟨_, .afterTop, .silent⟩ <|
      .head ⟨_, .topCons, .go rfl⟩ <| .head ⟨_, .call, .silent⟩ <|
      .head ⟨_, .enter rfl (by decide), .silent⟩ <| .head ⟨_, .cons, .go rfl⟩ .refl,
      ⟨_, _, _, rfl⟩, rfl⟩
  obtain ⟨m, c, hpasses, hprint, hnames⟩ := hpasses
  obtain ⟨-, -, -, hident, hsay, -⟩ := (bindings_from_text hp .never 5).2.1 m c hpasses
  exact ⟨hp, m, c, hpasses, hnames, fun owner frame ha => (hident owner frame ha).1,
    hsay _ (by decide) hprint⟩

end Scriptlet
