import Scriptlet.Token.Class

/-!
# Scriptlet.Syntax.Basic — programs

The language is flat: an operand is a token, an expression has at most one operator, and only
statements nest.  Operand tokens are kept as written and get their meaning when the program runs.

A program need not come from the parser.  One that was put together by other means may have gaps
where a statement or an expression is due, and operators that the language does not know.
-/

namespace Scriptlet

/-- The words that begin a statement. -/
inductive Keyword where
  | int
  | print
  | read
  | if
  | while
  | for
  | fun
  | return
  deriving DecidableEq, Repr

namespace Keyword

def word : Keyword → String
  | .int => "int"
  | .print => "print"
  | .read => "read"
  | .if => "if"
  | .while => "while"
  | .for => "for"
  | .fun => "fun"
  | .return => "return"

def all : List Keyword := [.int, .print, .read, .if, .while, .for, .fun, .return]

/-- The keyword that a token is. -/
def ofToken? (t : Token) : Option Keyword := all.find? fun k => utf8 k.word == t

end Keyword

/-- The operators of arithmetic. -/
inductive ArithOp where
  | add
  | sub
  | mul
  | div
  deriving DecidableEq, Repr

namespace ArithOp

def symbol : ArithOp → String
  | add => "+"
  | sub => "-"
  | mul => "*"
  | div => "/"

def all : List ArithOp := [add, sub, mul, div]

/-- The operator that a token is. -/
def ofToken? (t : Token) : Option ArithOp := all.find? fun o => utf8 o.symbol == t

end ArithOp

/-- The operators of comparison. -/
inductive CompareOp where
  | less
  | greater
  | equal
  deriving DecidableEq, Repr

namespace CompareOp

def symbol : CompareOp → String
  | less => "<"
  | greater => ">"
  | equal => "=="

def all : List CompareOp := [less, greater, equal]

/-- The operator that a token is. -/
def ofToken? (t : Token) : Option CompareOp := all.find? fun o => utf8 o.symbol == t

end CompareOp

/-- An expression. -/
inductive Expr where
  /-- An integer literal. -/
  | int (n : Int)
  /-- A string literal, without its quotes. -/
  | str (t : Text)
  /-- One operator between two operands. -/
  | binary (left op right : Token)
  /-- A function call. -/
  | call (name : Token) (args : List Token)
  /-- A gap. -/
  | absent
  deriving DecidableEq, Repr

/-- A comparison of two operands. -/
structure Condition where
  left : Token
  op : Token
  right : Token
  deriving DecidableEq, Repr

/-- A statement. -/
inductive Stmt where
  | declare (name : Token) (value : Expr)
  | assign (name : Token) (value : Expr)
  | print (operand : Token)
  | read (name : Token)
  /-- A conditional; without an `else` branch the last component is `none`. -/
  | ite (cond : Condition) (body : List Stmt) (alternative : Option (List Stmt))
  | while (cond : Condition) (body : List Stmt)
  | for (init : Stmt) (cond : Condition) (step : Stmt) (body : List Stmt)
  | fun (name : Token) (params : List Token) (body : List Stmt)
  | call (name : Token) (args : List Token)
  | return (value : Expr)
  /-- A gap. -/
  | absent
  deriving Repr

/-- A program is the list of its top-level statements. -/
abbrev Program := List Stmt

end Scriptlet
