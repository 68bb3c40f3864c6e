import Scriptlet.Run.Action
import Scriptlet.Run.ReturnMode
import Scriptlet.Value.Operation

/-!
# Scriptlet.Run.Interpreter — the dialogue that a program denotes

Statements are executed one after the other in the current frame.  A `return` carries its expression
unevaluated to the call it ends, which evaluates it in the frame of the callee.  Before every
statement of a list, and after every pass of a loop, the run looks whether it has been cancelled.

Loops may go on for ever, so a run is followed for a number of steps that the first argument bounds;
a run that would go on is cut there.
-/

namespace Scriptlet

/-- The deepest nesting of calls. -/
def maxCallDepth : Nat := 4096

/-- How a statement ends. -/
inductive Completion where
  /-- Go on with the next statement. -/
  | next
  /-- Return from the function. -/
  | return (value : Expr)
  deriving DecidableEq, Repr

/-- What the completion of a body becomes outside the conditional or loop it belongs to. -/
def ReturnMode.outside : ReturnMode → Completion → Completion
  | discard, _ => .next
  | propagate, c => c

/-- Whether a condition holds among the variables of a frame. -/
def Condition.holds (c : Condition) (f : Frame) : Bool :=
  Value.compare c.op (f.operand c.left) (f.operand c.right)

open Scriptlet.Action

variable {ρ : Type}

mutual

/-- Execute a statement, `depth` calls deep. -/
def exec (mode : ReturnMode) : Nat → (depth : Nat) → Stmt → Action ρ Completion
  | 0, _, _ => cut
  | n + 1, depth, s =>
    match s with
    | .declare name value => do
      assign name (← eval mode n depth value)
      return .next
    | .assign name value => do
      assign name (← eval mode n depth value)
      return .next
    | .print operand => do
      say ((← frame).shown operand)
      return .next
    | .read name => do
      assign name (.ofInput (← ask name))
      return .next
    | .ite cond body alternative => do
      if cond.holds (← frame) then return mode.outside (← execList mode n depth body)
      else match alternative with
        | some body' => return mode.outside (← execList mode n depth body')
        | none => return .next
    | .while cond body => loop mode n depth cond body none
    | .for init cond step body => do
      let _ ← exec mode n depth init
      loop mode n depth cond body (some step)
    | .fun name params body => do
      define name ⟨params, body⟩
      return .next
    | .call name args => do
      let _ ← call mode n depth name args
      return .next
    | .return value => return .return value
    | .absent => fail .unsupportedStatement
termination_by structural n => n

/-- Execute statements up to the first `return`. -/
def execList (mode : ReturnMode) : Nat → (depth : Nat) → List Stmt → Action ρ Completion
  | 0, _, _ => cut
  | _ + 1, _, [] => return .next
  | n + 1, depth, s :: ss => do
    checkpoint
    match ← exec mode n depth s with
    | .next => execList mode n depth ss
    | .return value => return .return value
termination_by structural n => n

/-- Repeat a body, and the step after it, while a condition holds. -/
def loop (mode : ReturnMode) :
    Nat → (depth : Nat) → Condition → List Stmt → Option Stmt → Action ρ Completion
  | 0, _, _, _, _ => cut
  | n + 1, depth, cond, body, step => do
    if cond.holds (← frame) then
      match mode.outside (← execList mode n depth body) with
      | .return value => return .return value
      | .next =>
        checkpoint
        match step with
        | none => loop mode n depth cond body step
        | some s =>
          let _ ← exec mode n depth s
          loop mode n depth cond body step
    else return .next
termination_by structural n => n

/-- Evaluate an expression. -/
def eval (mode : ReturnMode) : Nat → (depth : Nat) → Expr → Action ρ Value
  | 0, _, _ => cut
  | n + 1, depth, e =>
    match e with
    | .int i => return .ofInt i
    | .str t => return .text t
    | .binary left op right => do
      let f ← frame
      return .binary op (f.operand left) (f.operand right)
    | .call name args => call mode n depth name args
    | .absent => fail .unsupportedExpression
termination_by structural n => n

/-- Call a function.  Its body runs in a frame with the parameters only; the value is that of the
returned expression in this frame, and undefined without a `return`. -/
def call (mode : ReturnMode) : Nat → (depth : Nat) → Token → List Token → Action ρ Value
  | 0, _, _, _ => cut
  | n + 1, depth, name, args => do
    match (← functions).get? name with
    | none => fail (.functionNotFound name)
    | some f =>
      if maxCallDepth ≤ depth then fail (.callDepth name)
      else
        let caller ← frame
        within (.ofCall f.params (args.map caller.argument)) do
          match ← execList mode n (depth + 1) f.body with
          | .next => return .undefined
          | .return value => eval mode n (depth + 1) value
termination_by structural n => n

end

/-- Execute the statements of the top level, where a `return` ends nothing. -/
def execTop (mode : ReturnMode) (n : Nat) : List Stmt → Action ρ Unit
  | [] => return ()
  | s :: ss => do
    checkpoint
    let _ ← exec mode n 0 s
    execTop mode n ss

/-- What a run leaves behind. -/
structure Report where
  result : Except RunError Unit
  globals : Frame
  functions : FunctionTable

/-- The dialogue of a program, followed for a number of nested steps. -/
def Program.dialogue (p : Program) (mode : ReturnMode) (n : Nat) : Dialogue Report :=
  execTop mode n p ⟨∅, ∅⟩ fun result s => .done ⟨result, s.frame, s.functions⟩

end Scriptlet
