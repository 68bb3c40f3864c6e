import Scriptlet.Syntax.Basic
import Scriptlet.Text.Quote

/-!
# Scriptlet.Syntax.Outline — a program as an indented list

Every statement has a line with its index among its neighbours; the statements inside it follow with
one more step of indentation, and the two statements in the head of a `for` with two.
-/

namespace Scriptlet

namespace Outline

/-- The name that stands for a gap. -/
def gap : Text := utf8 "<nil>"

/-- Tokens with commas between them, in parentheses after a name. -/
def application (name : Token) (operands : List Token) : Text :=
  name ++ utf8 "(" ++ Text.join (utf8 ", ") operands ++ utf8 ")"

/-- An expression on one line. -/
def expression : Expr → Text
  | .int n => Text.ofInt n
  | .str t => t.quote
  | .binary left op right => Text.join (utf8 " ") [left, op, right]
  | .call name args => application name args
  | .absent => gap

/-- A condition on one line. -/
def condition (c : Condition) : Text := Text.join (utf8 " ") [c.left, c.op, c.right]

/-- The indentation of a depth. -/
def indent (depth : Nat) : Text := (List.replicate depth (utf8 "  ")).flatten

mutual

/-- The line of a statement, after its index, and the lines below it. -/
def statement (depth : Nat) : Stmt → Text × List Text
  | .declare name value => (utf8 "Declare " ++ name ++ utf8 " = " ++ expression value, [])
  | .assign name value => (utf8 "Assign " ++ name ++ utf8 " = " ++ expression value, [])
  | .print operand => (utf8 "Print " ++ operand, [])
  | .read name => (utf8 "Read " ++ name, [])
  | .ite cond body none =>
    (utf8 "If " ++ condition cond ++ utf8 " elseNil=true", block (depth + 1) 0 body)
  | .ite cond body (some alternative) =>
    (utf8 "If " ++ condition cond ++ utf8 " elseNil=false",
      block (depth + 1) 0 body ++ (indent depth ++ utf8 "  else") ::
        block (depth + 1) 0 alternative)
  | .while cond body => (utf8 "While " ++ condition cond, block (depth + 1) 0 body)
  | .for init cond step body =>
    let (first, inFirst) := statement (depth + 2) init
    let (second, inSecond) := statement (depth + 2) step
    (utf8 "For " ++ condition cond,
      (indent (depth + 2) ++ utf8 "0 " ++ first) :: inFirst ++
        (indent (depth + 2) ++ utf8 "1 " ++ second) :: inSecond ++ block (depth + 1) 0 body)
  | .fun name params body =>
    (utf8 "Function " ++ application name params, block (depth + 1) 0 body)
  | .call name args => (utf8 "Call " ++ application name args, [])
  | .return value => (utf8 "Return " ++ expression value, [])
  | .absent => (gap, [])

/-- The lines of statements, the first of which has the given index. -/
def block (depth index : Nat) : List Stmt → List Text
  | [] => []
  | s :: ss =>
    let (line, below) := statement depth s
    (indent depth ++ Text.ofNat index ++ utf8 " " ++ line) :: below ++ block depth (index + 1) ss

end

end Outline

/-- The outline of a program. -/
def Program.outline (p : Program) : Text := Text.unlines (Outline.block 0 0 p)

end Scriptlet
