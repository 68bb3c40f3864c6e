import Scriptlet.Proofs.ReturnPlacement

/-!
# Scriptlet.Proofs.DeadCode — what follows a `return` is never executed

A `return` ends the block it stands in, under both return modes; the modes differ in what becomes of
it outside.  So the statements after it in the block are dead, and no run can tell whether they are
there (`deadCode_unobservable`).  Only the top level goes on after a `return`.

* `p.prune`: the program `p` without what follows a `return` in a block, in all bodies of functions,
  branches and loops.  The statements of the top level are all kept.
* `t.map Function.prune`: the function table of the run without dead code.

The two runs are compared side by side (`Likeness.pruned`).  They take the same steps under every
bound, since a block is left at its first `return` anyway.
-/

namespace Scriptlet

/-! ### Leaving out dead code -/

mutual

/-- The statement without dead code in its blocks. -/
def Stmt.prune : Stmt → Stmt
  | .ite cond body none => .ite cond (Program.pruneBlock body) none
  | .ite cond body (some alternative) =>
    .ite cond (Program.pruneBlock body) (some (Program.pruneBlock alternative))
  | .while cond body => .while cond (Program.pruneBlock body)
  | .for init cond step body => .for init.prune cond step.prune (Program.pruneBlock body)
  | .fun name params body => .fun name params (Program.pruneBlock body)
  | s => s

/-- The block up to its first `return`, without dead code in what is nested. -/
def Program.pruneBlock : Program → Program
  | [] => []
  | s :: ss => if s.isReturn then [s] else s.prune :: Program.pruneBlock ss

end

/-- The program without dead code.  The top level is no block, and keeps its statements. -/
def Program.prune (p : Program) : Program := p.map Stmt.prune

def Function.prune (f : Function) : Function := ⟨f.params, Program.pruneBlock f.body⟩

mutual

def Stmt.hasDeadCode : Stmt → Bool
  | .ite _ body none => Program.hasDeadCode body
  | .ite _ body (some alternative) => Program.hasDeadCode body || Program.hasDeadCode alternative
  | .while _ body => Program.hasDeadCode body
  | .for init _ step body => init.hasDeadCode || step.hasDeadCode || Program.hasDeadCode body
  | .fun _ _ body => Program.hasDeadCode body
  | _ => false

/-- A statement follows a `return` in the block, or in a block nested in it. -/
def Program.hasDeadCode : Program → Bool
  | [] => false
  | s :: ss => (s.isReturn && !ss.isEmpty) || s.hasDeadCode || Program.hasDeadCode ss

end

theorem Stmt.isReturn_iff {s : Stmt} : s.isReturn = true ↔ ∃ value, s = .return value := by
  cases s <;> simp [Stmt.isReturn]

theorem Stmt.isReturn_prune (s : Stmt) : s.prune.isReturn = s.isReturn := by
  cases s with
  | ite cond body alternative => cases alternative <;> rfl
  | _ => rfl

theorem Program.pruneBlock_cons {s : Stmt} (h : s.isReturn = false) (ss : Program) :
    Program.pruneBlock (s :: ss) = s.prune :: Program.pruneBlock ss := by
  rw [Program.pruneBlock, h]
  rfl

mutual

theorem Stmt.hasDeadCode_prune : (s : Stmt) → s.prune.hasDeadCode = false
  | .ite _ body none => Program.hasDeadCode_pruneBlock body
  | .ite _ body (some alternative) =>
    Bool.or_eq_false_iff.2
      ⟨Program.hasDeadCode_pruneBlock body, Program.hasDeadCode_pruneBlock alternative⟩
  | .while _ body => Program.hasDeadCode_pruneBlock body
  | .for init _ step body =>
    Bool.or_eq_false_iff.2
      ⟨Bool.or_eq_false_iff.2 ⟨init.hasDeadCode_prune, step.hasDeadCode_prune⟩,
        Program.hasDeadCode_pruneBlock body⟩
  | .fun _ _ body => Program.hasDeadCode_pruneBlock body
  | .declare _ _ => rfl
  | .assign _ _ => rfl
  | .print _ => rfl
  | .read _ => rfl
  | .call _ _ => rfl
  | .return _ => rfl
  | .absent => rfl

/-- No statement is left after a `return`. -/
theorem Program.hasDeadCode_pruneBlock :
    (ss : Program) → Program.hasDeadCode (Program.pruneBlock ss) = false
  | [] => rfl
  | s :: ss => by
    cases hs : s.isReturn with
    | true =>
      obtain ⟨value, rfl⟩ := Stmt.isReturn_iff.1 hs
      rfl
    | false =>
      have hstmt := s.hasDeadCode_prune
      have hrest := Program.hasDeadCode_pruneBlock ss
      rw [Program.pruneBlock_cons hs, Program.hasDeadCode, s.isReturn_prune, hs, hstmt, hrest]
      rfl

end

/-! ### The two runs side by side -/

/-- Every statement is compared with what is left of it.  A block is left at its first `return`, so
that it does not matter what follows. -/
def Likeness.pruned (mode : ReturnMode) : Likeness .any mode mode where
  stmt plain s s' := plain = false ∧ s' = s.prune
  block plain ss ss' := plain = false ∧ ss' = Program.pruneBlock ss
  ofStmt := by
    rintro _ s _ ⟨rfl, rfl⟩
    rw [bne_self_eq_false, Bool.or_false]
    cases s with
    | declare name value => exact .declare fun _ _ => trivial
    | assign name value => exact .assign fun _ _ => trivial
    | print operand => exact .print trivial
    | read name => exact .read trivial
    | ite cond body alternative =>
      cases alternative with
      | none => exact .ite ⟨rfl, rfl⟩
      | some body' => exact .iteElse ⟨rfl, rfl⟩ ⟨rfl, rfl⟩
    | «while» cond body => exact .while ⟨rfl, rfl⟩
    | «for» init cond step body => exact .for ⟨rfl, rfl⟩ ⟨rfl, rfl⟩ ⟨rfl, rfl⟩
    | «fun» name params body => exact .fun ⟨rfl, rfl⟩
    | call name args => exact .call fun _ _ => trivial
    | «return» value => exact .return rfl fun _ _ => trivial
    | absent => exact .absent
  ofBlock := by
    rintro _ ss _ ⟨rfl, rfl⟩
    cases ss with
    | nil => exact .nil
    | cons s ss =>
      cases hs : s.isReturn with
      | true =>
        obtain ⟨value, rfl⟩ := Stmt.isReturn_iff.1 hs
        exact .return ⟨rfl, rfl⟩
      | false =>
        rw [Program.pruneBlock_cons hs]
        exact .cons ⟨rfl, rfl⟩ ⟨rfl, rfl⟩

theorem Likeness.eq_prune {mode : ReturnMode} {f f' : Function}
    (h : (Likeness.pruned mode).function f f') : f' = f.prune := by
  obtain ⟨params, body⟩ := f'
  obtain ⟨hparams, -, hbody⟩ := h
  rw [Function.prune, Function.mk.injEq]
  exact ⟨hparams.symm, hbody⟩

/-! ### Programs -/

/-- What a run without dead code leaves behind. -/
def Report.prune (r : Report) : Report := { r with functions := r.functions.map Function.prune }

theorem Program.dialogue_prune (p : Program) (mode : ReturnMode) (n : Nat) :
    (p.dialogue mode n).Alike (fun a b => b = a.prune) (p.prune.dialogue mode n) := by
  have hp : List.Forall₂ ((Likeness.pruned mode).stmt false) p p.prune :=
    List.forall₂_map_right_iff.2 (List.forall₂_same.2 fun _ _ => ⟨rfl, rfl⟩)
  refine Likeness.dialogue (.exchanges _) (.pruned mode) n (fun s s' hs => .done ?_)
    (fun e s s' hs => .done ?_) hp
  · rw [Report.prune, ← hs.frame, hs.functions.eq_map fun _ _ => Likeness.eq_prune]
  · rw [Report.prune, ← hs.frame, hs.functions.eq_map fun _ _ => Likeness.eq_prune]

/-- The session with dead code left out of its program and its functions. -/
def Session.prune (s : Session) : Session :=
  { s with program := s.program.prune, functions := s.functions.map Function.prune }

/-- **Code after a `return` is dead.**  The program `s.program.prune` has no statement after a
`return` in any block, and it has the same runs as the program of `s`, under both return modes and
whatever the settings, the queue, the provider and the context are.  The two programs hold the same
dialogue: they say and ask for the same, and look for a cancellation at the same times.  So the runs
show the same lines as far as they are followed, and one is over exactly when the other is, with the
same result, lines and requests, and leaving the same queue and the same variables.  The functions
they leave have the same names, and differ in dead code only. -/
theorem deadCode_unobservable (s : Session) (context : Context) (n : Nat) :
    (∀ stmt ∈ s.program.prune, stmt.hasDeadCode = false) ∧
      (s.program.dialogue s.mode n).Alike (fun a b => b = a.prune)
        (s.program.prune.dialogue s.mode n) ∧
      s.prune.shown context n = s.shown context n ∧
      s.prune.run context n = (s.run context n).map (fun x => (x.1, x.2.prune)) ∧
      ∀ r s', s.run context n = some (r, s') → ∃ s'', s.prune.run context n = some (r, s'') ∧
        s''.globals = s'.globals ∧ s''.functions.names = s'.functions.names ∧
          s''.queue = s'.queue ∧ s''.asked = s'.asked := by
  have halike := Program.dialogue_prune s.program s.mode n
  have hrun : s.prune.run context n = (s.run context n).map (fun x => (x.1, x.2.prune)) := by
    show ((s.program.prune.dialogue s.mode n).play context s.console).map _ = _
    rw [halike.play_eq_map context s.console, Session.run, Option.map_map, Option.map_map]
    rfl
  refine ⟨?_, halike, ?_, hrun, fun r s' h => ⟨s'.prune, ?_, rfl, Table.names_map _ _, rfl, rfl⟩⟩
  · intro stmt hstmt
    obtain ⟨t, -, rfl⟩ := List.mem_map.1 hstmt
    exact t.hasDeadCode_prune
  · exact congrArg (List.filterMap _) (halike.transcript_eq context s.console)
  · rw [hrun, h]
    rfl

end Scriptlet
