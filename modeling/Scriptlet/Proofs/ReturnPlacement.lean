import Scriptlet.Proofs.History
import Scriptlet.Proofs.SideBySide

/-!
# Scriptlet.Proofs.ReturnPlacement — where the return mode makes no difference

The return modes differ in what becomes of a `return` that ends the body of a conditional or of a
loop.  If no such body holds a `return` of its own, no run can tell them apart
(`returnMode_unobservable`).  Returns may still stand in the bodies of functions, wherever these are
defined, at the top level, where they end nothing, and in the head of a `for`, where both modes drop
them.

The two runs are compared side by side (`Likeness.direct`).  A body without a `return` of its own
always goes on with what follows it, and the functions that get into the table keep the shape of the
program.
-/

namespace Scriptlet

/-! ### Where returns stand -/

def Stmt.isReturn : Stmt → Bool
  | .return _ => true
  | _ => false

/-- None of the statements of the list is a `return`; what is nested in them does not count. -/
def Program.lacksReturn (ss : Program) : Bool := ss.all (!·.isReturn)

mutual

def Stmt.directReturns : Stmt → Bool
  | .ite _ body none => Program.lacksReturn body && Program.directReturns body
  | .ite _ body (some alternative) =>
    (Program.lacksReturn body && Program.directReturns body) &&
      (Program.lacksReturn alternative && Program.directReturns alternative)
  | .while _ body => Program.lacksReturn body && Program.directReturns body
  | .for init _ step body =>
    init.directReturns && step.directReturns &&
      (Program.lacksReturn body && Program.directReturns body)
  | .fun _ _ body => Program.directReturns body
  | _ => true

/-- There is no `return` in a branch of a conditional or in the body of a loop, except in the bodies
of functions that are defined there. -/
def Program.directReturns : Program → Bool
  | [] => true
  | s :: ss => s.directReturns && Program.directReturns ss

end

/-! ### The two modes side by side -/

/-- Every statement without nested returns is compared with itself.  It is plain if it is no
`return`; a block is plain if none of its own statements is. -/
def Likeness.direct : Likeness .any .discard .propagate where
  stmt plain s s' := s = s' ∧ s.directReturns ∧ (plain = true → s.isReturn = false)
  block plain ss ss' :=
    ss = ss' ∧ Program.directReturns ss ∧ (plain = true → Program.lacksReturn ss)
  ofStmt := by
    rintro plain s _ ⟨rfl, hs, hplain⟩
    have hinner : (plain || ReturnMode.discard != .propagate) = true := Bool.or_true plain
    have hbody : ∀ {body : Program}, body.lacksReturn = true ∧ body.directReturns = true →
        body = body ∧ Program.directReturns body ∧ (true = true → Program.lacksReturn body) :=
      fun h => ⟨rfl, h.2, fun _ => h.1⟩
    rw [hinner]
    cases s with
    | declare name value => exact .declare fun _ _ => trivial
    | assign name value => exact .assign fun _ _ => trivial
    | print operand => exact .print trivial
    | read name => exact .read trivial
    | ite cond body alternative =>
      cases alternative with
      | none =>
        simp only [Stmt.directReturns, Bool.and_eq_true] at hs
        exact .ite (hbody hs)
      | some body' =>
        simp only [Stmt.directReturns, Bool.and_eq_true] at hs
        exact .iteElse (hbody hs.1) (hbody hs.2)
    | «while» cond body =>
      simp only [Stmt.directReturns, Bool.and_eq_true] at hs
      exact .while (hbody hs)
    | «for» init cond step body =>
      simp only [Stmt.directReturns, Bool.and_eq_true] at hs
      exact .for ⟨rfl, hs.1.1, nofun⟩ ⟨rfl, hs.1.2, nofun⟩ (hbody hs.2)
    | «fun» name params body =>
      simp only [Stmt.directReturns] at hs
      exact .fun ⟨rfl, hs, nofun⟩
    | call name args => exact .call fun _ _ => trivial
    | «return» value =>
      refine .return (Bool.eq_false_iff.2 fun hp => ?_) fun _ _ => trivial
      cases hplain hp
    | absent => exact .absent
  ofBlock := by
    rintro plain ss _ ⟨rfl, hss, hplain⟩
    cases ss with
    | nil => exact .nil
    | cons s ss =>
      simp only [Program.directReturns, Bool.and_eq_true] at hss
      have hlacks : Program.lacksReturn (s :: ss) = (!s.isReturn && Program.lacksReturn ss) := rfl
      simp only [hlacks, Bool.and_eq_true, Bool.not_eq_true'] at hplain
      exact .cons ⟨rfl, hss.1, fun hp => (hplain hp).1⟩ ⟨rfl, hss.2, fun hp => (hplain hp).2⟩

theorem Program.dialogue_modes {p : Program} (h : p.directReturns) (n : Nat) :
    p.dialogue .discard n = p.dialogue .propagate n := by
  have hp : List.Forall₂ (Likeness.direct.stmt false) p p := by
    induction p with
    | nil => exact .nil
    | cons s ss ih =>
      simp only [Program.directReturns, Bool.and_eq_true] at h
      exact .cons ⟨rfl, h.1, nofun⟩ (ih h.2)
  refine (Likeness.execTop (.exchanges Eq) .direct n hp).report_eq ?_
  rintro ⟨params, body⟩ ⟨params', body'⟩ ⟨hparams, hbody, -⟩
  rw [Function.mk.injEq]
  exact ⟨hparams, hbody⟩

/-- **The return mode matters only for returns nested in control flow.**  Let `p` have no `return`
in a branch of a conditional or in the body of a loop, except in functions defined there.  Then `p`
has the same dialogue under both modes.  So in every session for `p`, whatever its settings, queue
and provider are and whenever the run is cancelled, the runs under the two modes show the same lines
as far as they are followed, and one is over exactly when the other is, with the same result, lines
and requests, and leaving the same queue, variables and functions. -/
theorem returnMode_unobservable {p : Program} (h : p.directReturns) :
    (∀ n, p.dialogue .discard n = p.dialogue .propagate n) ∧
      ∀ (s : Session) (context : Context) (n : Nat), s.program = p →
        (s.setReturnMode .propagate).shown context n = (s.setReturnMode .discard).shown context n ∧
          (s.setReturnMode .propagate).run context n =
            ((s.setReturnMode .discard).run context n).map fun x =>
              (x.1, x.2.setReturnMode .propagate) := by
  refine ⟨Program.dialogue_modes h, fun s context n hs => ?_⟩
  subst hs
  have hd := Program.dialogue_modes h n
  constructor
  · simp only [Session.shown, Session.setReturnMode, hd]
    rfl
  · simp only [Session.run, Session.setReturnMode, hd, Option.map_map]
    rfl

/-- A function with a `return` that is defined in a branch, a `return` in the head of a loop and one
at the top level. -/
theorem returnMode_unobservable_placed :
    let x := utf8 "x"
    let y := utf8 "y"
    let f := utf8 "f"
    let p : Program :=
      [.declare y (.int 0),
        .ite ⟨y, utf8 "==", y⟩
          [.fun f [] [.read x, .return (.binary x (utf8 "+") x), .print x]] none,
        .for (.return (.int 0)) ⟨y, utf8 "<", utf8 "3"⟩ (.return (.int 1)) [.assign y (.call f [])],
        .return (.int 2), .print y]
    let s := (Session.new p).enqueue [utf8 "1", utf8 "2"]
    p.directReturns ∧ (s.setReturnMode .discard).shown .never 12 = [⟨utf8 "4", false⟩] ∧
      (s.setReturnMode .propagate).shown .never 12 =
        (s.setReturnMode .discard).shown .never 12 := by
  intro x y f p s
  have hp : p.directReturns := rfl
  exact ⟨hp, by decide +kernel, ((returnMode_unobservable hp).2 s .never 12 rfl).1⟩

/-- A `return` in a branch tells the modes apart. -/
example :
    let y := utf8 "y"
    let f := utf8 "f"
    let p : Program :=
      [.fun f [] [.ite ⟨y, utf8 "==", y⟩ [.return (.int 1)] none], .declare y (.call f []),
        .print y]
    let s := Session.new p
    p.directReturns = false ∧
      (s.setReturnMode .propagate).shown .never 9 ≠ (s.setReturnMode .discard).shown .never 9 := by
  decide +kernel

end Scriptlet
