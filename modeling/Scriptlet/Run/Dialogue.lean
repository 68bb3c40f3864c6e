import Scriptlet.Run.Error

/-!
# Scriptlet.Run.Dialogue — a run as seen from outside

To its surroundings a run is a dialogue: it says lines of output, asks for input, and at certain
points looks whether it has been cancelled.  A program denotes such a dialogue once and for all; who
listens and who answers is the affair of its host.
-/

namespace Scriptlet

/-- A dialogue that ends with a result in `ρ`. -/
inductive Dialogue (ρ : Type) where
  /-- The end. -/
  | done (result : ρ)
  /-- A line of output. -/
  | say (text : Text) (next : Dialogue ρ)
  /-- A request for a value of the variable `name`. -/
  | ask (name : Token) (next : Answer → Dialogue ρ)
  /-- A look at whether the run has been cancelled. -/
  | poll (next : Bool → Dialogue ρ)
  /-- The run was not followed any further. -/
  | cut

end Scriptlet
