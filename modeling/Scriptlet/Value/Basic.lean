import Scriptlet.Number.Display
import Scriptlet.Number.Integer
import Scriptlet.Text.Blank

/-!
# Scriptlet.Value.Basic — the values of variables
-/

namespace Scriptlet

/-- A value.  `undefined` is what an unbound name and an operation without a result give. -/
inductive Value where
  | undefined
  | number (x : Float)
  | text (t : Text)

namespace Value

/-- The name of the kind of a value. -/
def kind : Value → String
  | undefined => "undefined"
  | number _ => "number"
  | text _ => "text"

/-- How a value is printed. -/
def display : Value → Text
  | undefined => utf8 "undefined"
  | number x => (Binary64.ofFloat x).display
  | text t => t

/-- The number for an integer. -/
def ofInt (n : Int) : Value := number (Binary64.ofInt n)

/-- The value of a line of input: an integer with white space around it is a number, and anything
else is text as it is. -/
def ofInput (raw : Text) : Value :=
  match Integer.parse? raw.trim with
  | some n => ofInt n
  | none => text raw

end Value

end Scriptlet
