import Scriptlet.Text.Quote
import Scriptlet.Token.Class

/-!
# Scriptlet.Syntax.Error — what the parser expected, and where
-/

namespace Scriptlet

/-- What could have come next. -/
inductive Expectation where
  | statement
  | expression
  | operand
  | arithmeticOperator
  | comparisonOperator
  | integerInRange
  | identifier
  | token
  | argument
  /-- The `=` or `(` after the identifier that begins a statement. -/
  | assignmentOrCall
  /-- A token fixed by the grammar. -/
  | symbol (t : Token)
  deriving DecidableEq, Repr

/-- The wording of an expectation. -/
def Expectation.describe : Expectation → Text
  | statement => utf8 "statement"
  | expression => utf8 "expression"
  | operand => utf8 "operand"
  | arithmeticOperator => utf8 "arithmetic operator"
  | comparisonOperator => utf8 "comparison operator"
  | integerInRange => utf8 "integer literal in range"
  | identifier => utf8 "identifier"
  | token => utf8 "token"
  | argument => utf8 "argument"
  | assignmentOrCall => utf8 "\"=\" or \"(\""
  | symbol t => t.quote

/-- The first token that does not fit the grammar: its index, what was expected there, and the token
itself unless the input ended. -/
structure SyntaxError where
  position : Nat
  expected : Expectation
  actual : Option Token
  deriving DecidableEq, Repr

namespace SyntaxError

/-- The mark that stands for the end of the input in messages. -/
def endMark : Token := utf8 "<eof>"

/-- The token found, or the mark of the end of the input. -/
def found (e : SyntaxError) : Token := e.actual.getD endMark

/-- The report of a syntax error.  The end mark is shown without quotes, also where it was a token
of the input. -/
def message (e : SyntaxError) : Text :=
  utf8 "syntax error at token " ++ Text.ofNat e.position ++ utf8 ": expected " ++
    e.expected.describe ++ utf8 ", got " ++
    (if e.found = endMark then endMark else Text.quote e.found)

end SyntaxError

end Scriptlet
