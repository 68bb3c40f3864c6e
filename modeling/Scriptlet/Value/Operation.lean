import Scriptlet.Syntax.Basic
import Scriptlet.Value.Basic

/-!
# Scriptlet.Value.Operation — arithmetic and comparison

Neither can fail: where an operation has no result its value is undefined, and a comparison that
makes no sense is false.
-/

namespace Scriptlet

namespace ArithOp

/-- An operator on numbers.  There is no division by zero. -/
def onNumbers (op : ArithOp) (x y : Float) : Value :=
  match op with
  | add => .number (x + y)
  | sub => .number (x - y)
  | mul => .number (x * y)
  | div => if y == 0 then .undefined else .number (x / y)

/-- An operator on values: it takes two numbers, except that addition with a text on either side
joins what the two sides print. -/
def eval (op : ArithOp) : Value → Value → Value
  | .number x, .number y => op.onNumbers x y
  | .text s, v => if op = add then .text (s ++ v.display) else .undefined
  | v, .text t => if op = add then .text (v.display ++ t) else .undefined
  | _, _ => .undefined

end ArithOp

namespace CompareOp

/-- A comparison of values: numbers by size, texts bytewise.  Values of different kinds are neither
equal nor ordered, and undefined equals itself. -/
def eval (op : CompareOp) : Value → Value → Bool
  | .number x, .number y =>
    match op with
    | less => x < y
    | greater => y < x
    | equal => x == y
  | .text s, .text t =>
    match op with
    | less => Text.lt s t
    | greater => Text.lt t s
    | equal => s == t
  | .undefined, .undefined => op = equal
  | _, _ => false

end CompareOp

namespace Value

/-- The result of an operator token on two values; an unknown operator has none. -/
def binary (op : Token) (left right : Value) : Value :=
  match ArithOp.ofToken? op with
  | some o => o.eval left right
  | none => undefined

/-- The result of a comparison token on two values; an unknown one never holds. -/
def compare (op : Token) (left right : Value) : Bool :=
  match CompareOp.ofToken? op with
  | some o => o.eval left right
  | none => false

end Value

end Scriptlet
