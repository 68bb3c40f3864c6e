import Scriptlet.Number.Integer
import Scriptlet.Syntax.Basic

/-!
# Scriptlet.Proofs.Grammar — which token lists spell a program

* `WellFormed`: a program that can be written down.  It has no gaps, its operators are known, its
  names are identifiers, and no part of it would be read as something else from its first token.
* `SpelledBy`: the productions of the grammar, as a relation between a program and a token list.
  Only integer literals have several spellings.
* `MayFollow`: after a conditional without an `else` branch the token `else` cannot come next, since
  it would belong to that conditional.
-/

namespace Scriptlet

/-! ### Programs that can be written down -/

/-- An identifier that does not begin a statement of its own. -/
def Token.IsPlainName (t : Token) : Prop := t.isIdent ∧ ∀ k : Keyword, t ≠ utf8 k.word

/-- A token that can be an argument: not one of those that separate and end arguments. -/
def Token.IsArgument (t : Token) : Prop := t ≠ utf8 ")" ∧ t ≠ utf8 ","

def Condition.WellFormed (c : Condition) : Prop := ∃ o : CompareOp, utf8 o.symbol = c.op

/-- The left operand of an operator is not a literal, which would be an expression by itself. -/
def Expr.WellFormed : Expr → Prop
  | .int n => 0 ≤ n ∧ Integer.InRange n
  | .str t => ∀ b ∈ t, b ≠ 0x0A ∧ b ≠ 0x0D
  | .binary left op _ =>
    ¬ left.isStringLiteral ∧ ¬ left.isIntLiteral ∧ ∃ o : ArithOp, utf8 o.symbol = op
  | .call name args => name.isIdent ∧ ∀ a ∈ args, a.IsArgument
  | .absent => False

mutual

def Stmt.WellFormed : Stmt → Prop
  | .declare name value => name.isIdent ∧ value.WellFormed
  | .assign name value => name.IsPlainName ∧ value.WellFormed
  | .print _ => True
  | .read name => name.isIdent
  | .ite cond body none => cond.WellFormed ∧ Program.WellFormed body
  | .ite cond body (some alternative) =>
    cond.WellFormed ∧ Program.WellFormed body ∧ Program.WellFormed alternative
  | .while cond body => cond.WellFormed ∧ Program.WellFormed body
  | .for init cond step body =>
    init.WellFormed ∧ cond.WellFormed ∧ step.WellFormed ∧ Program.WellFormed body
  | .fun name params body =>
    name.isIdent ∧ (∀ p ∈ params, p.isIdent) ∧ Program.WellFormed body
  | .call name args => name.IsPlainName ∧ ∀ a ∈ args, a.IsArgument
  | .return value => value.WellFormed
  | .absent => False

def Program.WellFormed : Program → Prop
  | [] => True
  | s :: ss => s.WellFormed ∧ Program.WellFormed ss

end

/-! ### Spellings -/

/-- The tokens of a list in parentheses. -/
def parenTokens (l : List Token) : List Token :=
  utf8 "(" :: (l.intersperse (utf8 ",") ++ [utf8 ")"])

def Condition.tokens (c : Condition) : List Token := [c.left, c.op, c.right]

/-- The tokens of a condition in parentheses. -/
def Condition.guardTokens (c : Condition) : List Token := utf8 "(" :: (c.tokens ++ [utf8 ")"])

/-- The tokens `ts` in braces. -/
def braceTokens (ts : List Token) : List Token := utf8 "\x7b" :: (ts ++ [utf8 "\x7d"])

/-- `e.SpelledBy ts`: the tokens `ts` are a spelling of the expression `e`. -/
inductive Expr.SpelledBy : Expr → List Token → Prop
  | int {t : Token} (ht : t.isIntLiteral) : SpelledBy (.int (Integer.ofDigits t)) [t]
  | str {t : Text} : SpelledBy (.str t) [quoteByte :: t ++ [quoteByte]]
  | binary {left op right : Token} : SpelledBy (.binary left op right) [left, op, right]
  | call {name : Token} {args : List Token} : SpelledBy (.call name args) (name :: parenTokens args)

/-- A conditional without an `else` branch. -/
def Stmt.LacksElse : Stmt → Prop
  | .ite _ _ none => True
  | _ => False

/-- The tokens `rest` may come right after the statement `s`. -/
def Stmt.MayFollow (s : Stmt) (rest : List Token) : Prop :=
  s.LacksElse → rest.head? ≠ some (utf8 "else")

mutual

/-- `s.SpelledBy ts`: the tokens `ts` are a spelling of the statement `s`. -/
inductive Stmt.SpelledBy : Stmt → List Token → Prop
  | declare {name : Token} {value : Expr} {v : List Token} (hv : value.SpelledBy v) :
    Stmt.SpelledBy (.declare name value) (utf8 "int" :: name :: utf8 "=" :: (v ++ [utf8 ";"]))
  | assign {name : Token} {value : Expr} {v : List Token} (hv : value.SpelledBy v) :
    Stmt.SpelledBy (.assign name value) (name :: utf8 "=" :: (v ++ [utf8 ";"]))
  | print {operand : Token} : Stmt.SpelledBy (.print operand) [utf8 "print", operand, utf8 ";"]
  | read {name : Token} : Stmt.SpelledBy (.read name) [utf8 "read", name, utf8 ";"]
  | ite {cond : Condition} {body : List Stmt} {b : List Token} (hb : Program.SpelledBy body b) :
    Stmt.SpelledBy (.ite cond body none) (utf8 "if" :: (cond.guardTokens ++ braceTokens b))
  | iteElse {cond : Condition} {body alternative : List Stmt} {b a : List Token}
      (hb : Program.SpelledBy body b) (ha : Program.SpelledBy alternative a) :
    Stmt.SpelledBy (.ite cond body (some alternative))
      (utf8 "if" :: (cond.guardTokens ++ braceTokens b ++ utf8 "else" :: braceTokens a))
  | while {cond : Condition} {body : List Stmt} {b : List Token} (hb : Program.SpelledBy body b) :
    Stmt.SpelledBy (.while cond body) (utf8 "while" :: (cond.guardTokens ++ braceTokens b))
  | for {init step : Stmt} {cond : Condition} {body : List Stmt} {i j b : List Token}
      (hi : init.SpelledBy i) (hc : init.MayFollow cond.tokens) (hj : step.SpelledBy j)
      (hb : Program.SpelledBy body b) :
    Stmt.SpelledBy (.for init cond step body)
      (utf8 "for" :: utf8 "(" :: (i ++ cond.tokens ++
        utf8 ";" :: (j ++ utf8 ")" :: braceTokens b)))
  | fun {name : Token} {params : List Token} {body : List Stmt} {b : List Token}
      (hb : Program.SpelledBy body b) :
    Stmt.SpelledBy (.fun name params body)
      (utf8 "fun" :: name :: (parenTokens params ++ braceTokens b))
  | call {name : Token} {args : List Token} :
    Stmt.SpelledBy (.call name args) (name :: (parenTokens args ++ [utf8 ";"]))
  | return {value : Expr} {v : List Token} (hv : value.SpelledBy v) :
    Stmt.SpelledBy (.return value) (utf8 "return" :: (v ++ [utf8 ";"]))

/-- `p.SpelledBy ts`: the tokens `ts` are a spelling of the statements `p`, one after the other. -/
inductive Program.SpelledBy : Program → List Token → Prop
  | nil : Program.SpelledBy [] []
  | cons {s : Stmt} {ss : List Stmt} {t ts : List Token} (hs : s.SpelledBy t)
      (hf : s.MayFollow ts) (hss : Program.SpelledBy ss ts) : Program.SpelledBy (s :: ss) (t ++ ts)

end

end Scriptlet
