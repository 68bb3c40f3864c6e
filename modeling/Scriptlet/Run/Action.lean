import Scriptlet.Run.Dialogue
import Scriptlet.Run.Frame
import Scriptlet.Syntax.Basic

/-!
# Scriptlet.Run.Action — steps of a run

An action works on the current frame and the function table, takes part in the dialogue, and either
yields a value or fails.  It is written with a continuation, so that the dialogue is built from its
front and a run in the middle of many calls costs no more per step than one at the top level.
-/

namespace Scriptlet

/-- A function: its parameters and its body. -/
structure Function where
  params : List Token
  body : List Stmt

/-- The functions defined so far.  The last definition of a name counts. -/
abbrev FunctionTable := Table Function

/-- What actions work on. -/
structure RunState where
  frame : Frame
  functions : FunctionTable

/-- A step of a run that yields a value in `α`, as part of a dialogue with result in `ρ`. -/
def Action (ρ α : Type) : Type :=
  RunState → (Except RunError α → RunState → Dialogue ρ) → Dialogue ρ

namespace Action

variable {ρ α β : Type}

/-- A failure skips what follows. -/
instance : Monad (Action ρ) where
  pure a := fun s k => k (.ok a) s
  bind x f := fun s k => x s fun r s' =>
    match r with
    | .ok a => f a s' k
    | .error e => k (.error e) s'

/-- Stop with an error. -/
def fail (e : RunError) : Action ρ α := fun s k => k (.error e) s

/-- Emit a line of output. -/
def say (t : Text) : Action ρ Unit := fun s k => .say t (k (.ok ()) s)

/-- Obtain a line of input for a variable. -/
def ask (name : Token) : Action ρ Text := fun s k =>
  .ask name fun answer =>
    match answer with
    | .ok raw => k (.ok raw) s
    | .error fault => k (.error (.read name fault)) s

/-- Stop if the run has been cancelled. -/
def checkpoint : Action ρ Unit := fun s k =>
  .poll fun cancelled => if cancelled then k (.error .canceled) s else k (.ok ()) s

/-- Follow the run no further. -/
def cut : Action ρ α := fun _ _ => .cut

/-- The current frame. -/
def frame : Action ρ Frame := fun s k => k (.ok s.frame) s

/-- The function table. -/
def functions : Action ρ FunctionTable := fun s k => k (.ok s.functions) s

/-- Give a variable of the current frame a value. -/
def assign (name : Token) (v : Value) : Action ρ Unit := fun s k =>
  k (.ok ()) { s with frame := s.frame.set name v }

/-- Define a function. -/
def define (name : Token) (f : Function) : Action ρ Unit := fun s k =>
  k (.ok ()) { s with functions := s.functions.set name f }

/-- An action in a frame of its own.  Afterwards, also after a failure, the present frame is current
again, just as it was. -/
def within (f : Frame) (x : Action ρ α) : Action ρ α := fun s k =>
  x { s with frame := f } fun r s' => k r { s' with frame := s.frame }

theorem pure_apply (a : α) (s : RunState) (k : Except RunError α → RunState → Dialogue ρ) :
    (pure a : Action ρ α) s k = k (.ok a) s := rfl

theorem bind_apply (x : Action ρ α) (f : α → Action ρ β) (s : RunState)
    (k : Except RunError β → RunState → Dialogue ρ) :
    (x >>= f) s k = x s fun r s' =>
      match r with
      | .ok a => f a s' k
      | .error e => k (.error e) s' := rfl

end Action

end Scriptlet
