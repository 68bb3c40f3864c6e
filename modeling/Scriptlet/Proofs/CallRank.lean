import Scriptlet.Proofs.Provenance

/-!
# Scriptlet.Proofs.CallRank — programs without recursion never call too deep

A ranking of a program gives every function a number, so that the calls in the body of a function
are of functions with smaller numbers.  A program with a ranking below `maxCallDepth` never fails for
a call too deep, however many calls it makes, and however its functions are defined anew while it
runs (`callDepth_unreached`).

* `k.At depth s`: the statement `s` stands in code that may be executed `depth` calls deep.  What
  the depth and the rank of the function come to together stays within the bound of the ranking.
* `w.Ranked k`: at each level of the calls that have not returned, all that is left to do stands in
  such code, and the depth that the interpreter counts is the number of these calls.

Every move keeps this (`Work.Ranked.moves`).  A returned expression is evaluated after the body it
comes from has been left, but still at the depth of the call.
-/

namespace Scriptlet

/-! ### Rankings -/

/-- The function that an expression calls. -/
def Expr.callee? : Expr → Option Token
  | .call name _ => some name
  | _ => none

/-- The function that a statement calls by itself or in its expression. -/
def Stmt.callee? : Stmt → Option Token
  | .call name _ => some name
  | s => s.value?.bind Expr.callee?

/-- The function that is called by what a statement returns. -/
def Completion.callee? : Completion → Option Token
  | .next => none
  | .return e => e.callee?

theorem Completion.callee?_outside {mode : ReturnMode} {c : Completion} {name : Token}
    (h : (mode.outside c).callee? = some name) : c.callee? = some name := by
  cases mode with
  | discard => cases h
  | propagate => exact h

/-- Numbers for the functions of a program.  A call in the body of a function, outside the functions
that are defined there, is of a function with a smaller number, or of none of the program. -/
structure Program.Ranking (p : Program) where
  rank : Token → Nat
  bound : Nat
  rank_lt : ∀ name f, p.Defines name f → rank name < bound
  callee_lt : ∀ name f s callee g, p.Defines name f → Program.Has f.body s →
    s.callee? = some callee → p.Defines callee g → rank callee < rank name

namespace Program.Ranking

variable {p : Program} (k : p.Ranking) {depth : Nat}

/-- There is room for a call of `name` from `depth` calls deep, and for the calls nested in it. -/
def Admits (depth : Nat) (name : Token) : Prop :=
  ∀ f, p.Defines name f → depth + k.rank name < k.bound

/-- The statement stands in code that may be executed `depth` calls deep. -/
inductive At : Nat → Stmt → Prop
  | top {s : Stmt} (h : p.Has s) : At 0 s
  | body {depth : Nat} {name : Token} {f : Function} {s : Stmt} (hf : p.Defines name f)
    (hdepth : depth + k.rank name ≤ k.bound) (h : Program.Has f.body s) : At depth s

variable {k}

theorem At.inner {s t : Stmt} (h : k.At depth s) (ht : t ∈ s.inner) : k.At depth t := by
  cases h with
  | top h => exact .top (h.inner ht)
  | body hf hdepth h => exact .body hf hdepth (h.inner ht)

theorem At.admits {s : Stmt} (h : k.At depth s) {callee : Token} (hs : s.callee? = some callee) :
    k.Admits depth callee := by
  intro g hg
  cases h with
  | top h =>
    rw [Nat.zero_add]
    exact k.rank_lt callee g hg
  | @body _ name f _ hf hdepth h =>
    have hlt : k.rank callee < k.rank name := k.callee_lt name f s callee g hf h hs hg
    omega

/-- One call deeper there is still room for the body of the function that is called. -/
theorem Admits.at {name : Token} {f : Function} (h : k.Admits depth name) (hf : p.Defines name f)
    {s : Stmt} (hs : s ∈ f.body) : k.At (depth + 1) s := by
  have hroom : depth + k.rank name < k.bound := h f hf
  exact .body hf (by omega) (.own hs)

end Program.Ranking

/-! ### What is left to do -/

variable {p : Program} {k : p.Ranking}

/-- The code of a loop may be executed `depth` calls deep. -/
structure LoopCode.Ranked (k : p.Ranking) (depth : Nat) (l : LoopCode) : Prop where
  body : ∀ s ∈ l.body, k.At depth s
  step : ∀ s ∈ l.step, k.At depth s

mutual

/-- All that is left to do stands in code that may be executed at its depth.  There are `depth`
calls that have not returned, no more than the ranking has room for. -/
def AfterStmt.Ranked (k : p.Ranking) (depth : Nat) : AfterStmt → Prop
  | .top _ ss => depth = 0 ∧ ∀ s ∈ ss, k.At 0 s
  | .list _ d ss rest => d = depth ∧ (∀ s ∈ ss, k.At depth s) ∧ rest.Ranked k depth
  | .ite rest => rest.Ranked k depth
  | .pass _ d l rest => d = depth ∧ l.Ranked k depth ∧ rest.Ranked k depth
  | .loop _ d l rest => d = depth ∧ l.Ranked k depth ∧ rest.Ranked k depth
  | .body _ d _ _ rest => depth = d + 1 ∧ depth ≤ k.bound ∧ rest.Ranked k d

def AfterValue.Ranked (k : p.Ranking) (depth : Nat) : AfterValue → Prop
  | .bind _ rest => rest.Ranked k depth
  | .drop rest => rest.Ranked k depth
  | .result _ _ rest => ∃ d, depth = d + 1 ∧ depth ≤ k.bound ∧ rest.Ranked k d

end

/-- All that is being done and is left to do stands in code that may be executed at its depth, and a
failure on its way out is not that of a call too deep. -/
def Work.Ranked (k : p.Ranking) : Work → Prop
  | .exec _ depth s rest => k.At depth s ∧ rest.Ranked k depth
  | .list _ depth ss rest => (∀ s ∈ ss, k.At depth s) ∧ rest.Ranked k depth
  | .loop _ depth l rest => l.Ranked k depth ∧ rest.Ranked k depth
  | .eval _ depth e rest =>
    (∀ name, e.callee? = some name → k.Admits depth name) ∧ rest.Ranked k depth
  | .call _ depth name _ rest => k.Admits depth name ∧ rest.Ranked k depth
  | .top _ ss => ∀ s ∈ ss, k.At 0 s
  | .ended (.ok c) rest =>
    ∃ depth, (∀ name, c.callee? = some name → k.Admits depth name) ∧ rest.Ranked k depth
  | .ended (.error e) rest => (∀ name, e ≠ .callDepth name) ∧ ∃ depth, rest.Ranked k depth
  | .valued (.ok _) rest => ∃ depth, rest.Ranked k depth
  | .valued (.error e) rest => (∀ name, e ≠ .callDepth name) ∧ ∃ depth, rest.Ranked k depth
  | .finished r => ∀ name, r ≠ .error (.callDepth name)

mutual

/-- The depth is the number of calls that have not returned, and there is room for them. -/
theorem AfterStmt.length_callers {depth : Nat} :
    (rest : AfterStmt) → rest.Ranked k depth → rest.callers.length = depth ∧ depth ≤ k.bound
  | .top _ _, h => ⟨h.1.symm, h.1 ▸ Nat.zero_le _⟩
  | .list _ _ _ rest, h => rest.length_callers h.2.2
  | .ite rest, h => rest.length_callers h
  | .pass _ _ _ rest, h => rest.length_callers h.2.2
  | .loop _ _ _ rest, h => rest.length_callers h.2.2
  | .body _ _ _ _ rest, ⟨hdepth, hle, h⟩ =>
    ⟨(congrArg (· + 1) (rest.length_callers h).1).trans hdepth.symm, hle⟩

theorem AfterValue.length_callers {depth : Nat} :
    (rest : AfterValue) → rest.Ranked k depth → rest.callers.length = depth ∧ depth ≤ k.bound
  | .bind _ rest, h => rest.length_callers h
  | .drop rest, h => rest.length_callers h
  | .result _ _ rest, ⟨_, hdepth, hle, h⟩ =>
    ⟨(congrArg (· + 1) (rest.length_callers h).1).trans hdepth.symm, hle⟩

end

theorem Work.Ranked.callers_le {w : Work} (h : w.Ranked k) : w.callers.length ≤ k.bound := by
  have hstmt : ∀ {depth} {rest : AfterStmt}, rest.Ranked k depth →
      rest.callers.length ≤ k.bound := by
    intro depth rest hrest
    obtain ⟨hlength, hle⟩ := rest.length_callers hrest
    exact hlength ▸ hle
  have hvalue : ∀ {depth} {rest : AfterValue}, rest.Ranked k depth →
      rest.callers.length ≤ k.bound := by
    intro depth rest hrest
    obtain ⟨hlength, hle⟩ := rest.length_callers hrest
    exact hlength ▸ hle
  cases w with
  | exec n depth s rest => exact hstmt h.2
  | list n depth ss rest => exact hstmt h.2
  | loop n depth l rest => exact hstmt h.2
  | eval n depth e rest => exact hvalue h.2
  | call n depth name args rest => exact hvalue h.2
  | top n ss => exact Nat.zero_le _
  | ended r rest =>
    cases r with
    | ok c =>
      obtain ⟨depth, -, hrest⟩ := h
      exact hstmt hrest
    | error e =>
      obtain ⟨-, depth, hrest⟩ := h
      exact hstmt hrest
  | valued r rest =>
    cases r with
    | ok v =>
      obtain ⟨depth, hrest⟩ := h
      exact hvalue hrest
    | error e =>
      obtain ⟨-, depth, hrest⟩ := h
      exact hvalue hrest
  | finished r => exact Nat.zero_le _

theorem Work.Ranked.failure_ne {m : Moment} (h : m.work.Ranked k) (name : Token) :
    m.failure? ≠ some (.callDepth name) := by
  intro hfailure
  obtain ⟨w, σ⟩ := m
  cases w with
  | ended r rest =>
    cases r with
    | ok c => cases hfailure
    | error e => exact h.1 name (Option.some.inj hfailure)
  | valued r rest =>
    cases r with
    | ok v => cases hfailure
    | error e => exact h.1 name (Option.some.inj hfailure)
  | finished r =>
    cases r with
    | ok u => cases hfailure
    | error e => exact h name (congrArg Except.error (Option.some.inj hfailure))
  | _ => cases hfailure

/-! ### Moves -/

theorem AfterStmt.Ranked.next {depth : Nat} {rest : AfterStmt} (h : rest.Ranked k depth) :
    (Work.ended (.ok .next) rest).Ranked k := by
  refine ⟨depth, fun name hname => ?_, h⟩
  cases hname

theorem AfterStmt.Ranked.skip {depth : Nat} {rest : AfterStmt} (h : rest.Ranked k depth)
    {e : RunError} (he : ∀ name, e ≠ .callDepth name) (σ : RunState) :
    (rest.skip σ e).work.Ranked k := by
  cases rest with
  | top n ss =>
    intro name hname
    exact he name (Except.error.inj hname)
  | list n d ss rest => exact ⟨he, depth, h.2.2⟩
  | ite rest => exact ⟨he, depth, h⟩
  | pass n d l rest => exact ⟨he, depth, h.2.2⟩
  | loop n d l rest => exact ⟨he, depth, h.2.2⟩
  | body n d f caller rest => exact ⟨he, d, h.2.2⟩

theorem AfterValue.Ranked.skip {depth : Nat} {rest : AfterValue} (h : rest.Ranked k depth)
    {e : RunError} (he : ∀ name, e ≠ .callDepth name) (σ : RunState) :
    (rest.skip σ e).work.Ranked k := by
  cases rest with
  | bind name rest => exact ⟨he, depth, h⟩
  | drop rest => exact ⟨he, depth, h⟩
  | result f caller rest =>
    obtain ⟨d, -, -, hrest⟩ := h
    exact ⟨he, d, hrest⟩

theorem LoopCode.Ranked.again {l : LoopCode} {depth : Nat} {rest : AfterStmt}
    (hl : l.Ranked k depth) (hrest : rest.Ranked k depth) (n : Nat) :
    (l.again n depth rest).Ranked k := by
  obtain ⟨cond, body, step⟩ := l
  cases step with
  | none => exact ⟨hl, hrest⟩
  | some s => exact ⟨hl.step s rfl, rfl, hl, hrest⟩

section Moves

variable {mode : ReturnMode} {σ : RunState} {move : Move}

theorem Work.Ranked.moves_exec {n depth : Nat} {s : Stmt} {rest : AfterStmt} (hs : k.At depth s)
    (hrest : rest.Ranked k depth) (hmove : Moment.Moves mode ⟨.exec n depth s rest, σ⟩ move) :
    move.All fun m => m.work.Ranked k := by
  cases hmove with
  | cut h => trivial
  | declare => exact ⟨fun name hname => hs.admits hname, hrest⟩
  | assign => exact ⟨fun name hname => hs.admits hname, hrest⟩
  | print => exact hrest.next
  | read => exact ⟨fun raw => hrest.next, fun fault => ⟨fun name => by simp, depth, hrest⟩⟩
  | @iteTrue cond body alternative =>
    refine ⟨fun t ht => hs.inner ?_, hrest⟩
    cases alternative with
    | none => exact ht
    | some body' => exact List.mem_append_left _ ht
  | iteFalse h => exact ⟨fun t ht => hs.inner (List.mem_append_right _ ht), hrest⟩
  | iteNone h => exact hrest.next
  | @«while» cond body =>
    have hl : LoopCode.Ranked k depth ⟨cond, body, none⟩ := ⟨fun t ht => hs.inner ht, by simp⟩
    exact ⟨hl, hrest⟩
  | @«for» init step cond body =>
    have hl : LoopCode.Ranked k depth ⟨cond, body, some step⟩ := by
      refine ⟨fun t ht => hs.inner (by simp [Stmt.inner, ht]), fun t ht => ?_⟩
      exact hs.inner (by simp [Stmt.inner, Option.mem_some.mp ht])
    exact ⟨hs.inner List.mem_cons_self, rfl, hl, hrest⟩
  | «fun» => exact hrest.next
  | call => exact ⟨hs.admits rfl, hrest⟩
  | «return» => exact ⟨depth, fun name hname => hs.admits hname, hrest⟩
  | absent => exact ⟨fun name => by simp, depth, hrest⟩

theorem Work.Ranked.moves_ended {c : Completion} {rest : AfterStmt}
    (h : (Work.ended (.ok c) rest).Ranked k)
    (hmove : Moment.Moves mode ⟨.ended (.ok c) rest, σ⟩ move) :
    move.All fun m => m.work.Ranked k := by
  obtain ⟨depth, hc, hrest⟩ := h
  cases hmove with
  | cut h => trivial
  | afterTop => exact hrest.2
  | afterNext =>
    obtain ⟨rfl, hss, hrest⟩ := hrest
    exact ⟨hss, hrest⟩
  | afterReturn => exact ⟨depth, hc, hrest.2.2⟩
  | afterIte => exact ⟨depth, fun name hname => hc name (Completion.callee?_outside hname), hrest⟩
  | passNext h =>
    obtain ⟨rfl, hl, hrest⟩ := hrest
    exact ⟨⟨fun name => by simp, _, hrest⟩, hl.again hrest _⟩
  | passReturn h =>
    refine ⟨depth, fun name hname => hc name ?_, hrest.2.2⟩
    rw [← h] at hname
    exact Completion.callee?_outside hname
  | afterStep =>
    obtain ⟨rfl, hl, hrest⟩ := hrest
    exact ⟨hl, hrest⟩
  | bodyNext => exact ⟨_, hrest.2.2⟩
  | bodyReturn =>
    obtain ⟨rfl, hle, hrest⟩ := hrest
    exact ⟨hc, _, rfl, hle, hrest⟩

/-- Every move keeps to the ranking, if the functions are those of the program. -/
theorem Work.Ranked.moves {w : Work} (h : w.Ranked k) (hk : k.bound ≤ maxCallDepth)
    (hfunctions : ∀ name f, σ.functions.get? name = some f → p.Defines name f)
    (hmove : Moment.Moves mode ⟨w, σ⟩ move) : move.All fun m => m.work.Ranked k := by
  cases w with
  | exec n depth s rest => exact Work.Ranked.moves_exec h.1 h.2 hmove
  | list n depth ss rest =>
    obtain ⟨hss, hrest⟩ := h
    cases hmove with
    | cut h => trivial
    | nil => exact hrest.next
    | cons =>
      obtain ⟨hs, hss⟩ := List.forall_mem_cons.mp hss
      exact ⟨⟨fun name => by simp, depth, hrest⟩, hs, rfl, hss, hrest⟩
  | loop n depth l rest =>
    obtain ⟨hl, hrest⟩ := h
    cases hmove with
    | cut h => trivial
    | loopTrue h => exact ⟨hl.body, rfl, hl, hrest⟩
    | loopFalse h => exact hrest.next
  | eval n depth e after =>
    obtain ⟨he, hafter⟩ := h
    cases hmove with
    | cut h => trivial
    | callExpr => exact ⟨he _ rfl, hafter⟩
    | absentExpr => exact ⟨fun name => by simp, depth, hafter⟩
    | _ => exact ⟨depth, hafter⟩
  | call n depth name args after =>
    obtain ⟨hname, hafter⟩ := h
    cases hmove with
    | cut h => trivial
    | notFound h => exact ⟨fun name => by simp, depth, hafter⟩
    | @tooDeep _ f _ _ _ _ _ h hdepth =>
      have hroom : depth + k.rank name < k.bound := hname f (hfunctions name f h)
      omega
    | @enter _ f _ _ _ _ _ h hdepth =>
      have hf : p.Defines name f := hfunctions name f h
      have hroom : depth + k.rank name < k.bound := hname f hf
      exact ⟨fun s hs => hname.at hf hs, rfl, by omega, hafter⟩
  | top n ss =>
    cases hmove with
    | cut h => trivial
    | topNil => exact fun name => by simp
    | topCons =>
      obtain ⟨hs, hss⟩ := List.forall_mem_cons.mp h
      exact ⟨fun name => by simp, hs, rfl, hss⟩
  | ended r rest =>
    cases r with
    | ok c => exact h.moves_ended hmove
    | error e =>
      obtain ⟨he, depth, hrest⟩ := h
      cases hmove with
      | cut h => trivial
      | failed => exact hrest.skip he σ
  | valued r after =>
    cases r with
    | ok v =>
      obtain ⟨depth, hafter⟩ := h
      cases hmove with
      | cut h => trivial
      | bind => exact AfterStmt.Ranked.next hafter
      | drop => exact AfterStmt.Ranked.next hafter
      | result =>
        obtain ⟨d, -, -, hrest⟩ := hafter
        exact ⟨d, hrest⟩
    | error e =>
      obtain ⟨he, depth, hafter⟩ := h
      cases hmove with
      | cut h => trivial
      | failedExpr => exact hafter.skip he σ
  | finished r =>
    cases hmove with
    | cut h => trivial
    | finished => trivial

end Moves

/-! ### Runs -/

/-- A list that has the statements of `p`, and those inside its own, has all that stand in `p`. -/
theorem Program.Has.mem {p : Program} {code : List Stmt} (hp : ∀ s ∈ p, s ∈ code)
    (hinner : ∀ s ∈ code, ∀ t ∈ s.inner, t ∈ code) {s : Stmt} (h : p.Has s) : s ∈ code := by
  induction h with
  | own h => exact hp _ h
  | inner _ ht ih => exact hinner _ ih _ ht

theorem Program.Contains.mem {p : Program} {code : List Stmt} (hp : ∀ s ∈ p, s ∈ code)
    (hinner : ∀ s ∈ code, ∀ t ∈ s.inner, t ∈ code)
    (hbody : ∀ name params body, Stmt.fun name params body ∈ code → ∀ t ∈ body, t ∈ code) {s : Stmt}
    (h : p.Contains s) : s ∈ code := by
  induction h with
  | outside h => exact h.mem hp hinner
  | body _ hs ih => exact hs.mem (hbody _ _ _ ih) hinner

theorem Moment.ranked_of_reaches {mode : ReturnMode} {context : Context} {n : Nat} {c : Console}
    {x : Moment × Console} (hk : k.bound ≤ maxCallDepth)
    (h : Moment.Reaches mode context (.start p n, c) x) : x.1.work.Ranked k := by
  have hboth : x.1.Traced p ∧ x.1.work.Ranked k := by
    refine h.invariant (P := fun x => x.1.Traced p ∧ x.1.work.Ranked k)
      ⟨Moment.traced_start p n, fun s hs => .top (.own hs)⟩ ?_
    intro x y ⟨htraced, hranked⟩ hstep
    refine ⟨htraced.step hstep, ?_⟩
    obtain ⟨move, hmove, hleads⟩ := hstep
    exact hleads.of_all (hranked.moves hk htraced.functions hmove)
  exact hboth.2

/-- **A program without recursion never calls too deep.**  Let the program of the session `s` have a
ranking of at most `maxCallDepth` ranks.  Then no run of `s` fails for a call too deep, under either
return mode, whatever is answered and whenever the run is cancelled, and however long it goes on.  At
every moment of it there are at most as many calls that have not returned as there are ranks. -/
theorem callDepth_unreached {s : Session} (k : s.program.Ranking) (hk : k.bound ≤ maxCallDepth)
    (context : Context) (n : Nat) :
    (∀ r s', s.run context n = some (r, s') → ∀ name, r.result ≠ .error (.callDepth name)) ∧
      ∀ m c, s.Passes context n (m, c) →
        m.work.callers.length ≤ k.bound ∧ ∀ name, m.failure? ≠ some (.callDepth name) := by
  refine ⟨fun r s' hrun => ?_, fun m c hpasses => ?_⟩
  · obtain ⟨c, -, hpasses, -⟩ := Session.exists_last hrun
    exact Moment.ranked_of_reaches hk hpasses
  · have hranked : m.work.Ranked k := Moment.ranked_of_reaches hk hpasses
    exact ⟨hranked.callers_le, hranked.failure_ne⟩

/-- A function defines another one anew in each call, and calls it in a loop and in its `return`. -/
theorem callDepth_unreached_loop :
    let a := utf8 "a"
    let f := utf8 "f"
    let g := utf8 "g"
    let s := Session.new
      [.fun f [a] [.fun g [a] [.print a, .return (.binary a (utf8 "+") a)],
          .while ⟨a, utf8 "<", utf8 "9"⟩ [.assign a (.call g [a])], .return (.call g [a])],
        .declare a (.call f [utf8 "3"]), .call f [a], .call (utf8 "h") []]
    ∃ k : s.program.Ranking, (k.bound = 2 ∧ k.bound ≤ maxCallDepth) ∧
      ∃ r s', s.run .never 20 = some (r, s') ∧ r.outputs.length = 4 ∧
        ∀ name, r.result ≠ .error (.callDepth name) := by
  intro a f g s
  let double : List Stmt := [.print a, .return (.binary a (utf8 "+") a)]
  let body : List Stmt := [.fun g [a] double,
    .while ⟨a, utf8 "<", utf8 "9"⟩ [.assign a (.call g [a])], .return (.call g [a])]
  let code : List Stmt := .assign a (.call g [a]) :: (s.program ++ body ++ double)
  have hfun : ∀ name params ss, .fun name params ss ∈ code →
      (name = f ∧ ss = body) ∨ (name = g ∧ ss = double) := by
    intro name params ss hmem
    obtain ⟨hname, -, hss⟩ | ⟨hname, -, hss⟩ :
        (name = f ∧ params = [a] ∧ ss = body) ∨ (name = g ∧ params = [a] ∧ ss = double) := by
      simpa [code, s, Session.new, body, double] using hmem
    · exact .inl ⟨hname, hss⟩
    · exact .inr ⟨hname, hss⟩
  have hdefines : ∀ name F, s.program.Defines name F →
      (name = f ∧ F.body = body) ∨ (name = g ∧ F.body = double) := by
    intro name F hF
    refine hfun name F.params F.body (hF.mem (fun t ht => by simp [code, ht]) ?_ ?_)
    · simp [code, s, Session.new, body, double, Stmt.inner]
    · intro name params ss hmem t ht
      rcases hfun name params ss hmem with ⟨-, rfl⟩ | ⟨-, rfl⟩ <;> simp [code, ht]
  let rank : Token → Nat := fun t => if t = f then 1 else 0
  have hrank : ∀ name F, s.program.Defines name F → rank name < 2 := by
    intro name F hF
    rcases hdefines name F hF with ⟨rfl, -⟩ | ⟨rfl, -⟩ <;> decide
  have hcallee : ∀ name F t callee G, s.program.Defines name F → Program.Has F.body t →
      t.callee? = some callee → s.program.Defines callee G → rank callee < rank name := by
    intro name F t callee G hF ht hcallee _
    rcases hdefines name F hF with ⟨rfl, hbody⟩ | ⟨rfl, hbody⟩
    · have hmem : t ∈ .assign a (.call g [a]) :: body :=
        (hbody ▸ ht).mem (fun t ht => List.mem_cons_of_mem _ ht) (by simp [body, Stmt.inner])
      have hcalls : ∀ t ∈ .assign a (.call g [a]) :: body, ∀ c ∈ t.callee?, c = g := by
        simp [body, Stmt.callee?, Stmt.value?, Expr.callee?]
      obtain rfl : callee = g := hcalls t hmem callee hcallee
      decide
    · have hmem : t ∈ double := (hbody ▸ ht).mem (fun t ht => ht) (by simp [double, Stmt.inner])
      have hcalls : ∀ t ∈ double, t.callee? = none := by
        simp [double, Stmt.callee?, Stmt.value?, Expr.callee?]
      cases (hcalls t hmem).symm.trans hcallee
  have hk : 2 ≤ maxCallDepth := by decide
  have hlength : (s.run .never 20).map (·.1.outputs.length) = some 4 := by decide +kernel
  obtain ⟨⟨r, s'⟩, hrun, houtputs⟩ := Option.map_eq_some_iff.1 hlength
  exact ⟨⟨rank, 2, hrank, hcallee⟩, ⟨rfl, hk⟩, r, s', hrun, houtputs,
    (callDepth_unreached ⟨rank, 2, hrank, hcallee⟩ hk .never 20).1 r s' hrun⟩

end Scriptlet
