import Scriptlet.Number.Integer
import Scriptlet.Syntax.Basic
import Scriptlet.Syntax.Error

/-!
# Scriptlet.Syntax.Parser — from tokens to a program

A parser takes the tokens still to be read and returns what it read and the tokens left over.  It
never looks further than two tokens ahead and never goes back, so the first token that does not fit
is the first of the tokens left at that point.

Nested statements are read with a counter that bounds the nesting.  A statement is at least one
token long, so the number of tokens is always enough, and `parse` shows no counter.
-/

namespace Scriptlet

namespace Syntax

/-- A mismatch, with the tokens from the one that does not fit. -/
structure Mismatch where
  expected : Expectation
  rest : List Token
  deriving DecidableEq, Repr

/-- A reader of tokens. -/
def Reader (α : Type) : Type := List Token → Except Mismatch (α × List Token)

namespace Reader

instance : Monad Reader where
  pure a := fun ts => .ok (a, ts)
  bind r f := fun ts =>
    match r ts with
    | .ok (a, ts') => f a ts'
    | .error e => .error e

/-- Fail at the current token. -/
def mismatch {α : Type} (expected : Expectation) : Reader α := fun ts => .error ⟨expected, ts⟩

/-- Whether the current token is `t`. -/
def at? (t : Token) : Reader Bool := fun ts => .ok (ts.head? == some t, ts)

/-- The current token, if it has property `p`. -/
def satisfy (expected : Expectation) (p : Token → Bool) : Reader Token
  | [] => .error ⟨expected, []⟩
  | t :: ts => if p t then .ok (t, ts) else .error ⟨expected, t :: ts⟩

/-- Any token. -/
def any (expected : Expectation) : Reader Token := satisfy expected fun _ => true

/-- The token `s` itself. -/
def symbol (s : Token) : Reader Unit := do
  let _ ← satisfy (.symbol s) (· == s)

/-- An identifier. -/
def identifier : Reader Token := satisfy .identifier Token.isIdent

end Reader

open Reader

/-! ### Lists in parentheses -/

/-- One or more tokens with property `p`, with commas between them, and the closing parenthesis. -/
def commaList (expected : Expectation) (p : Token → Bool) : Reader (List Token)
  | [] => .error ⟨expected, []⟩
  | t :: ts =>
    if p t then
      match ts with
      | [] => .error ⟨.symbol ")", []⟩
      | u :: ts' =>
        if u = utf8 "," then
          match commaList expected p ts' with
          | .ok (l, rest) => .ok (t :: l, rest)
          | .error e => .error e
        else if u = utf8 ")" then .ok ([t], ts')
        else .error ⟨.symbol ")", u :: ts'⟩
    else .error ⟨expected, t :: ts⟩

/-- A possibly empty list of tokens with property `p` in parentheses. -/
def parenthesised (expected : Expectation) (p : Token → Bool) : Reader (List Token) := do
  symbol "("
  if ← at? ")" then
    symbol ")"
    return []
  else commaList expected p

/-- The parameters of a function. -/
def parameters : Reader (List Token) := parenthesised .identifier Token.isIdent

/-- The arguments of a call: any tokens but the comma and the closing parenthesis. -/
def arguments : Reader (List Token) :=
  parenthesised .argument fun t => t != utf8 ")" && t != utf8 ","

/-! ### Expressions and conditions -/

/-- An operand, an operator and an operand. -/
def triple (expected : Expectation) (isOp : Token → Bool) : Reader (Token × Token × Token) := do
  let left ← any .operand
  let op ← satisfy expected isOp
  let right ← any .operand
  return (left, op, right)

/-- A comparison. -/
def condition : Reader Condition := do
  let (left, op, right) ← triple .comparisonOperator fun t => (CompareOp.ofToken? t).isSome
  return ⟨left, op, right⟩

/-- The rest of a call expression, from its arguments on. -/
def callExpression (name : Token) : Reader Expr := do
  let args ← arguments
  return .call name args

/-- An arithmetic operator between two operands. -/
def binaryExpression : Reader Expr := do
  let (left, op, right) ← triple .arithmeticOperator fun t => (ArithOp.ofToken? t).isSome
  return .binary left op right

/-- An expression.  A literal is the whole expression, an identifier before a parenthesis is a call,
and everything else is an operator between two operands. -/
def expression : Reader Expr
  | [] => .error ⟨.expression, []⟩
  | t :: ts =>
    match Token.stringLiteral? t with
    | some inner => .ok (.str inner, ts)
    | none =>
      if Token.isIntLiteral t then
        match Integer.unsigned? t with
        | some n => .ok (.int n, ts)
        | none => .error ⟨.integerInRange, t :: ts⟩
      else if Token.isIdent t ∧ ts.head? = some (utf8 "(") then callExpression t ts
      else binaryExpression (t :: ts)

/-! ### Statements -/

/-- The rest of a declaration or an assignment, from the name on. -/
def binding (make : Token → Expr → Stmt) : Reader Stmt := do
  let name ← identifier
  symbol "="
  let value ← expression
  symbol ";"
  return make name value

/-- A condition in parentheses. -/
def guard : Reader Condition := do
  symbol "("
  let cond ← condition
  symbol ")"
  return cond

/-- Statements in braces, given a reader of what follows the opening brace. -/
def block (blockRest : Reader (List Stmt)) : Reader (List Stmt) := do
  symbol "\x7b"
  blockRest

/-- The rest of a statement that began with a keyword, given readers of the statements inside it. -/
def keywordStatement (statement : Reader Stmt) (blockRest : Reader (List Stmt)) :
    Keyword → Reader Stmt
  | .int => binding .declare
  | .print => do
    let operand ← any .token
    symbol ";"
    return .print operand
  | .read => do
    let name ← identifier
    symbol ";"
    return .read name
  | .if => do
    let cond ← guard
    let body ← block blockRest
    if ← at? "else" then
      symbol "else"
      let alternative ← block blockRest
      return .ite cond body (some alternative)
    else return .ite cond body none
  | .while => do
    let cond ← guard
    let body ← block blockRest
    return .while cond body
  | .for => do
    symbol "("
    let init ← statement
    let cond ← condition
    symbol ";"
    let step ← statement
    symbol ")"
    let body ← block blockRest
    return .for init cond step body
  | .fun => do
    let name ← identifier
    let params ← parameters
    let body ← block blockRest
    return .fun name params body
  | .return => do
    let value ← expression
    symbol ";"
    return .return value

/-- The rest of a call statement, from its arguments on. -/
def callStatement (name : Token) : Reader Stmt := do
  let args ← arguments
  symbol ";"
  return .call name args

mutual

/-- A statement. -/
def statement : Nat → Reader Stmt
  | 0 => mismatch .statement
  | n + 1 => fun ts =>
    match ts with
    | [] => .error ⟨.statement, []⟩
    | t :: rest =>
      match Keyword.ofToken? t with
      | some k => keywordStatement (statement n) (blockRest n) k rest
      | none =>
        if Token.isIdent t then
          if rest.head? = some (utf8 "=") then binding .assign (t :: rest)
          else if rest.head? = some (utf8 "(") then callStatement t rest
          else .error ⟨.assignmentOrCall, rest⟩
        else .error ⟨.statement, t :: rest⟩

/-- The rest of a block, from its first statement or its closing brace on. -/
def blockRest : Nat → Reader (List Stmt)
  | 0 => mismatch (.symbol "\x7d")
  | n + 1 => fun ts =>
    match ts with
    | [] => .error ⟨.symbol "\x7d", []⟩
    | t :: rest =>
      if t = utf8 "\x7d" then .ok ([], rest)
      else
        match statement n (t :: rest) with
        | .error e => .error e
        | .ok (s, rest') =>
          match blockRest n rest' with
          | .error e => .error e
          | .ok (ss, rest'') => .ok (s :: ss, rest'')

end

/-- Statements up to the end of the input. -/
def statements : Nat → List Token → Except Mismatch (List Stmt)
  | _, [] => .ok []
  | 0, ts => .error ⟨.statement, ts⟩
  | n + 1, ts =>
    match statement (n + 1) ts with
    | .error e => .error e
    | .ok (s, rest) =>
      match statements n rest with
      | .error e => .error e
      | .ok ss => .ok (s :: ss)

end Syntax

/-- The program that a token list spells, or the first token that does not fit. -/
def parse (ts : List Token) : Except SyntaxError Program :=
  match Syntax.statements ts.length ts with
  | .ok program => .ok program
  | .error e => .error ⟨ts.length - e.rest.length, e.expected, e.rest.head?⟩

end Scriptlet
