import Scriptlet.Token.Lexer

/-!
# Scriptlet.Proofs.Lexicon — what source text is made of

The tokens of a source and what may stand between them, described apart from the way in which the
lexer finds them.

* `Lexeme l`: the characters `l` are a token.  It is a word, an integer literal in one of four
  radixes, a string literal with its quotes, `==`, or a single other character.
* `Separator s after`: the characters `s`, with `after` behind them, are white space and comments.  A
  line comment reaches up to a line feed or to the end of the source.
* `Layout s`: the same for any `after`, beginning with white space.
* `Spelled P ls cs`: `cs` are the tokens `ls` with separators around them, and each token `l` and
  what comes behind it have the property `P`.
-/

namespace Scriptlet

namespace Radix

def digits : Radix → List Char
  | binary => ['0', '1']
  | octal => ['0', '1', '2', '3', '4', '5', '6', '7']
  | decimal => ['0', '1', '2', '3', '4', '5', '6', '7', '8', '9']
  | hexadecimal =>
    ['0', '1', '2', '3', '4', '5', '6', '7', '8', '9', 'a', 'b', 'c', 'd', 'e', 'f',
      'A', 'B', 'C', 'D', 'E', 'F']

/-- The letters that mark a literal of the radix, after a zero. -/
def marks : Radix → List Char
  | binary => ['b', 'B']
  | octal => ['o', 'O']
  | decimal => []
  | hexadecimal => ['x', 'X']

end Radix

namespace Lexicon

open Lexer

/-! ### Integer literals -/

/-- One or more digits, with single underscores between them. -/
inductive Digits (radix : Radix) : List Char → Prop
  | single {d : Char} (hd : d ∈ radix.digits) : Digits radix [d]
  | cons {d : Char} {ds : List Char} (hd : d ∈ radix.digits) (h : Digits radix ds) :
    Digits radix (d :: ds)
  | underscore {d : Char} {ds : List Char} (hd : d ∈ radix.digits) (h : Digits radix ds) :
    Digits radix (d :: '_' :: ds)

/-- A literal with a leading zero is octal, unless a letter after the zero marks its radix.  An
underscore may follow the mark. -/
inductive IntegerLiteral : List Char → Prop
  | decimal {ds : List Char} (h : Digits .decimal ds) (hd : ds.head? ≠ some '0') : IntegerLiteral ds
  | octal {ds : List Char} (h : Digits .octal ('0' :: ds)) : IntegerLiteral ('0' :: ds)
  | marked {radix : Radix} {x : Char} {ds : List Char} (hx : x ∈ radix.marks)
    (h : Digits radix ds) : IntegerLiteral ('0' :: x :: ds)
  | markedUnderscore {radix : Radix} {x : Char} {ds : List Char} (hx : x ∈ radix.marks)
    (h : Digits radix ds) : IntegerLiteral ('0' :: x :: '_' :: ds)

/-! ### String literals -/

/-- What may follow a backslash. -/
inductive Escape : List Char → Prop
  | short {c : Char} (hc : c ∈ ['a', 'b', 'f', 'n', 'r', 't', 'v', '\\', '"']) : Escape [c]
  | octal {ds : List Char} (hlength : ds.length = 3) (hds : ∀ d ∈ ds, d ∈ Radix.octal.digits) :
    Escape ds
  | hexadecimal {c : Char} {ds : List Char} (hc : (c, ds.length) ∈ [('x', 2), ('u', 4), ('U', 8)])
    (hds : ∀ d ∈ ds, d ∈ Radix.hexadecimal.digits) : Escape (c :: ds)

/-- What may stand between two double quotes. -/
inductive StringBody : List Char → Prop
  | nil : StringBody []
  | plain {c : Char} {body : List Char} (hc : c ∉ ['"', '\\', '\n']) (h : StringBody body) :
    StringBody (c :: body)
  | escape {e body : List Char} (he : Escape e) (h : StringBody body) :
    StringBody ('\\' :: (e ++ body))

/-! ### Tokens -/

/-- A character that is a token by itself. -/
def isSymbol (c : Char) : Bool := !isSpace c && !isWordChar c && c != '"'

inductive Lexeme : List Char → Prop
  | word {c : Char} {cs : List Char} (hc : isLetter c) (hcs : ∀ d ∈ cs, isWordChar d) :
    Lexeme (c :: cs)
  | integer {l : List Char} (h : IntegerLiteral l) : Lexeme l
  | string {body : List Char} (h : StringBody body) : Lexeme ('"' :: (body ++ ['"']))
  | equality : Lexeme ['=', '=']
  | symbol {c : Char} (hc : isSymbol c) : Lexeme [c]

/-- The token `l` is the longest one that begins at its place, with `rest` behind it, and it does
not begin a comment. -/
structure Longest (l rest : List Char) : Prop where
  lexeme : Lexeme l
  length_le : ∀ l', Lexeme l' → l' <+: l ++ rest → l'.length ≤ l.length
  equals : l = ['='] → rest.head? ≠ some '='
  slash : l = ['/'] → rest.head? ≠ some '/' ∧ rest.head? ≠ some '*'

/-! ### Between tokens -/

/-- White space and comments, before `after`. -/
inductive Separator : List Char → List Char → Prop
  | nil {after : List Char} : Separator [] after
  | space {c : Char} {s after : List Char} (hc : isSpace c) (h : Separator s after) :
    Separator (c :: s) after
  | line {body s after : List Char} (hbody : '\n' ∉ body)
    (hend : s ++ after = [] ∨ (s ++ after).head? = some '\n') (h : Separator s after) :
    Separator ('/' :: '/' :: (body ++ s)) after
  | block {body s after : List Char} (hbody : ¬ ['*', '/'] <:+: body) (h : Separator s after) :
    Separator ('/' :: '*' :: (body ++ '*' :: '/' :: s)) after

/-- White space and comments, with a line feed at the end of each line comment. -/
inductive Filling : List Char → Prop
  | nil : Filling []
  | space {c : Char} {s : List Char} (hc : isSpace c) (h : Filling s) : Filling (c :: s)
  | line {body s : List Char} (hbody : '\n' ∉ body) (h : Filling s) :
    Filling ('/' :: '/' :: (body ++ '\n' :: s))
  | block {body s : List Char} (hbody : ¬ ['*', '/'] <:+: body) (h : Filling s) :
    Filling ('/' :: '*' :: (body ++ '*' :: '/' :: s))

/-- White space, and then more of it, or comments. -/
inductive Layout : List Char → Prop
  | mk {c : Char} {s : List Char} (hc : isSpace c) (h : Filling s) : Layout (c :: s)

theorem Filling.separator {s : List Char} (h : Filling s) (after : List Char) :
    Separator s after := by
  induction h with
  | nil => exact .nil
  | space hc _ ih => exact .space hc ih
  | line hbody _ ih => exact .line hbody (.inr rfl) (.space rfl ih)
  | block hbody _ ih => exact .block hbody ih

theorem Layout.separator {s : List Char} (h : Layout s) (after : List Char) :
    Separator s after := by
  cases h with
  | mk hc h => exact .space hc (h.separator after)

/-! ### Source text -/

/-- Tokens with separators around them. -/
inductive Spelled (P : List Char → List Char → Prop) : List (List Char) → List Char → Prop
  | nil {s : List Char} (hs : Separator s []) : Spelled P [] s
  | cons {s l rest : List Char} {ls : List (List Char)} (hs : Separator s (l ++ rest))
    (hl : P l rest) (h : Spelled P ls rest) : Spelled P (l :: ls) (s ++ (l ++ rest))

theorem Spelled.mono {P Q : List Char → List Char → Prop} (hPQ : ∀ l rest, P l rest → Q l rest)
    {ls : List (List Char)} {cs : List Char} (h : Spelled P ls cs) : Spelled Q ls cs := by
  induction h with
  | nil hs => exact .nil hs
  | cons hs hl _ ih => exact .cons hs (hPQ _ _ hl) ih

/-! ### The first character of a token decides its kind -/

theorem Digits.head {radix : Radix} {d : Char} {ds : List Char} (h : Digits radix (d :: ds)) :
    d ∈ radix.digits := by
  cases h with
  | single hd => exact hd
  | cons hd _ => exact hd
  | underscore hd _ => exact hd

theorem isSymbol_iff {c : Char} :
    isSymbol c ↔ isSpace c = false ∧ isLetter c = false ∧ isDigit c = false ∧ c ≠ '"' := by
  simp only [isSymbol, isWordChar, Bool.and_eq_true, Bool.not_eq_true', Bool.or_eq_false_iff,
    bne_iff_ne, ne_eq, and_assoc]

end Lexicon

end Scriptlet
