import Scriptlet.Text.Blank
import Scriptlet.Text.Quote

/-!
# Scriptlet.Run.ReturnMode — what a `return` inside control flow does
-/

namespace Scriptlet

/-- What a conditional or a loop does when its body ends in a `return`. -/
inductive ReturnMode where
  /-- The body stops there and the `return` is dropped; a loop checks its condition again. -/
  | discard
  /-- The `return` reaches the enclosing function. -/
  | propagate
  deriving DecidableEq, Repr

namespace ReturnMode

def name : ReturnMode → String
  | discard => "discard"
  | propagate => "propagate"

/-- The mode that a setting names; a blank setting names `discard`. -/
def parse? (raw : Text) : Option ReturnMode :=
  let word := raw.optionWord
  if word = [] ∨ word = utf8 "discard" then some discard
  else if word = utf8 "propagate" then some propagate
  else none

/-- The complaint about a setting that names no mode. -/
def unknownMessage (raw : Text) : Text :=
  utf8 "unknown return mode " ++ raw.quote ++ utf8 " (want discard|propagate)"

end ReturnMode

end Scriptlet
