import Scriptlet.Run.Table
import Scriptlet.Value.Basic

/-!
# Scriptlet.Run.Frame — the variables of one activation

Frames are not linked to each other: the top level and every call have a frame of their own, and a
name is looked up in one frame only.
-/

namespace Scriptlet

/-- The variables of the top level or of one call. -/
abbrev Frame := Table Value

namespace Frame

/-- The value of an operand: that of an integer in range, else that of the variable. -/
def operand (f : Frame) (t : Token) : Value :=
  match Integer.parse? t with
  | some n => .ofInt n
  | none => (f.get? t).getD .undefined

/-- The value of a call argument: as that of an operand, except that a token in quotes is text. -/
def argument (f : Frame) (t : Token) : Value :=
  match t.enclosed? with
  | some inner => .text inner
  | none => f.operand t

/-- What is printed for a token: the value of the variable of that name, else the token itself. -/
def shown (f : Frame) (t : Token) : Text :=
  match f.get? t with
  | some v => v.display
  | none => t

/-- The frame of a call: parameters are bound to arguments from left to right, as far as both go. -/
def ofCall (params : List Token) (args : List Value) : Frame :=
  (params.zip args).foldl (fun f (p, v) => f.set p v) ∅

end Frame

end Scriptlet
