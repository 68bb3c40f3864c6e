import Scriptlet.Text.Rune
import Scriptlet.Token.Class

/-!
# Scriptlet.Token.Lexer — from source text to tokens

Source text is split into words, integer literals, string literals, `==` and single characters.
White space and comments separate tokens and are dropped.  The first defect ends the splitting; it
is reported at the last character that had been looked at, which normally is the one after the
token.

`Lexer.skip` drops separators, `Lexer.lexeme` takes one token, and `Source.tokens` puts the two
together.  Both work on characters: the part of the source before the first NUL or malformed byte,
which itself is a defect unless another one comes first.
-/

namespace Scriptlet

/-- The base of an integer literal. -/
inductive Radix where
  | binary
  | octal
  | decimal
  | hexadecimal
  deriving DecidableEq, Repr

namespace Radix

/-- The number of digits. -/
def base : Radix → Nat
  | binary => 2
  | octal => 8
  | decimal => 10
  | hexadecimal => 16

/-- The adjective in messages. -/
def name : Radix → String
  | binary => "binary"
  | octal => "octal"
  | decimal => "decimal"
  | hexadecimal => "hexadecimal"

end Radix

/-- The ways in which source text fails to split into tokens. -/
inductive LexicalError where
  | nulCharacter
  | malformedEncoding
  | noDigits (radix : Radix)
  | invalidDigit (digit : Char) (radix : Radix)
  | looseUnderscore
  | unterminatedLiteral
  | unterminatedComment
  | invalidEscape
  deriving DecidableEq, Repr

namespace LexicalError

/-- The wording of a defect, without its place. -/
def message : LexicalError → String
  | nulCharacter => "invalid character NUL"
  | malformedEncoding => "invalid UTF-8 encoding"
  | noDigits radix => radix.name ++ " literal has no digits"
  | invalidDigit digit radix =>
    "invalid digit '" ++ digit.toString ++ "' in " ++ radix.name ++ " literal"
  | looseUnderscore => "'_' must separate successive digits"
  | unterminatedLiteral => "literal not terminated"
  | unterminatedComment => "comment not terminated"
  | invalidEscape => "invalid char escape"

end LexicalError

namespace Lexer

/-- A defect, with the characters from the last one looked at. -/
structure Fault where
  cause : LexicalError
  rest : List Char
  deriving DecidableEq, Repr

/-! ### Character classes -/

/-- White space between tokens. -/
def isSpace (c : Char) : Bool := c == '\t' || c == '\n' || c == '\r' || c == ' '

def isLetter (c : Char) : Bool :=
  c == '_' || ('a' ≤ c && c ≤ 'z') || ('A' ≤ c && c ≤ 'Z')

def isDigit (c : Char) : Bool := '0' ≤ c && c ≤ '9'

def isHexDigit (c : Char) : Bool :=
  isDigit c || ('a' ≤ c && c ≤ 'f') || ('A' ≤ c && c ≤ 'F')

/-- A character that may follow the first one of a word. -/
def isWordChar (c : Char) : Bool := isLetter c || isDigit c

/-! ### Separators -/

mutual

/-- The source from its first token on. -/
def skip : List Char → Except Fault (List Char)
  | '/' :: '/' :: cs => skipLine cs
  | '/' :: '*' :: cs => skipBlock cs
  | c :: cs => if isSpace c then skip cs else .ok (c :: cs)
  | [] => .ok []

/-- The source after the rest of a line comment. -/
def skipLine : List Char → Except Fault (List Char)
  | [] => .ok []
  | c :: cs => if c = '\n' then skip cs else skipLine cs

/-- The source after the rest of a block comment. -/
def skipBlock : List Char → Except Fault (List Char)
  | [] => .error ⟨.unterminatedComment, []⟩
  | '*' :: '/' :: cs => skip cs
  | _ :: cs => skipBlock cs

end

/-! ### Integer literals -/

/-- The radix of a literal that begins with the digit `c`, whether it is marked by a letter, and the
characters among which its digits begin. -/
def radixOf (c : Char) (cs : List Char) : Radix × List Char × List Char :=
  if c = '0' then
    match cs with
    | x :: rest =>
      if x = 'x' ∨ x = 'X' then (.hexadecimal, [c, x], rest)
      else if x = 'o' ∨ x = 'O' then (.octal, [c, x], rest)
      else if x = 'b' ∨ x = 'B' then (.binary, [c, x], rest)
      else (.octal, [], c :: cs)
    | [] => (.octal, [], c :: cs)
  else (.decimal, [], c :: cs)

/-- The characters that a literal of the radix goes on with: also digits too large for it. -/
def isNumeralChar (radix : Radix) (c : Char) : Bool :=
  c == '_' || (if radix = .hexadecimal then isHexDigit c else isDigit c)

/-- Whether a digit is too large for the radix. -/
def exceeds (radix : Radix) (c : Char) : Bool :=
  isDigit c && radix.base ≤ c.toNat - '0'.toNat

/-- Whether every underscore stands between two digits.  `afterDigit` says whether a digit, or the
letter of a marked radix, comes before. -/
def wellSeparated : (afterDigit : Bool) → List Char → Bool
  | _, [] => true
  | afterDigit, c :: cs =>
    if c = '_' then
      match cs with
      | [] => false
      | d :: _ => afterDigit && d != '_' && wellSeparated false cs
    else wellSeparated true cs

/-- The integer literal that begins with the digit `c`, and what follows it. -/
def numeral (c : Char) (cs : List Char) : Except Fault (List Char × List Char) :=
  let (radix, mark, body) := radixOf c cs
  let digits := body.takeWhile (isNumeralChar radix)
  let rest := body.dropWhile (isNumeralChar radix)
  if digits.all (· == '_') then .error ⟨.noDigits radix, rest⟩
  else match digits.find? (exceeds radix) with
    | some d => .error ⟨.invalidDigit d radix, rest⟩
    | none =>
      if wellSeparated (!mark.isEmpty) digits then .ok (mark ++ digits, rest)
      else .error ⟨.looseUnderscore, rest⟩

/-! ### String literals -/

/-- What may come next inside a string literal: any character, the rest of an escape after its
backslash, or so many more digits of an escape. -/
inductive Due where
  | any
  | escape
  | digits (radix : Radix) (count : Nat)
  deriving DecidableEq, Repr

/-- What an escape that begins with the character `c` goes on with. -/
def escapeDue? (c : Char) : Option Due :=
  if c ∈ ['a', 'b', 'f', 'n', 'r', 't', 'v', '\\', '"'] then some .any
  else if '0' ≤ c && c ≤ '7' then some (.digits .octal 2)
  else if c = 'x' then some (.digits .hexadecimal 2)
  else if c = 'u' then some (.digits .hexadecimal 4)
  else if c = 'U' then some (.digits .hexadecimal 8)
  else none

/-- Whether a character is a digit of an escape. -/
def isEscapeDigit (radix : Radix) (c : Char) : Bool :=
  if radix = .hexadecimal then isHexDigit c else isDigit c && !exceeds radix c

/-- The rest of a string literal up to and with its closing quote, and what follows it. -/
def literal : Due → List Char → Except Fault (List Char × List Char)
  | .any, [] => .error ⟨.unterminatedLiteral, []⟩
  | _, [] => .error ⟨.invalidEscape, []⟩
  | .any, c :: cs =>
    if c = '"' then .ok ([c], cs)
    else if c = '\n' then .error ⟨.unterminatedLiteral, c :: cs⟩
    else do
      let (inner, rest) ← literal (if c = '\\' then .escape else .any) cs
      return (c :: inner, rest)
  | .escape, c :: cs =>
    match escapeDue? c with
    | none => .error ⟨.invalidEscape, c :: cs⟩
    | some due => do
      let (inner, rest) ← literal due cs
      return (c :: inner, rest)
  | .digits radix count, c :: cs =>
    if isEscapeDigit radix c then do
      let (inner, rest) ← literal (if count ≤ 1 then .any else .digits radix (count - 1)) cs
      return (c :: inner, rest)
    else .error ⟨.invalidEscape, c :: cs⟩

/-! ### Tokens -/

/-- The token that begins with `c`, and what follows it. -/
def lexeme (c : Char) (cs : List Char) : Except Fault (List Char × List Char) :=
  if isLetter c then .ok (c :: cs.takeWhile isWordChar, cs.dropWhile isWordChar)
  else if isDigit c then numeral c cs
  else if c = '"' then do
    let (inner, rest) ← literal .any cs
    return (c :: inner, rest)
  else if c = '=' ∧ cs.head? = some '=' then .ok (['=', '='], cs.tail)
  else .ok ([c], cs)

/-! ### Every token takes at least one character -/

theorem length_dropWhile_le (p : Char → Bool) (cs : List Char) :
    (cs.dropWhile p).length ≤ cs.length := by
  induction cs with
  | nil => simp
  | cons c cs ih =>
    rw [List.dropWhile_cons]
    split
    · simp only [List.length_cons]; omega
    · exact Nat.le_refl _

mutual

theorem length_of_skip {cs rest : List Char} (h : skip cs = .ok rest) :
    rest.length ≤ cs.length := by
  unfold skip at h
  split at h
  · have := length_of_skipLine h
    simp only [List.length_cons]; omega
  · have := length_of_skipBlock h
    simp only [List.length_cons]; omega
  · split at h
    · have := length_of_skip h
      simp only [List.length_cons]; omega
    · cases h; simp
  · cases h; simp

theorem length_of_skipLine {cs rest : List Char} (h : skipLine cs = .ok rest) :
    rest.length ≤ cs.length := by
  unfold skipLine at h
  split at h
  · cases h; simp
  · split at h
    · have := length_of_skip h
      simp only [List.length_cons]; omega
    · have := length_of_skipLine h
      simp only [List.length_cons]; omega

theorem length_of_skipBlock {cs rest : List Char} (h : skipBlock cs = .ok rest) :
    rest.length ≤ cs.length := by
  unfold skipBlock at h
  split at h
  · cases h
  · have := length_of_skip h
    simp only [List.length_cons]; omega
  · have := length_of_skipBlock h
    simp only [List.length_cons]; omega

end

theorem length_radixOf (c : Char) (cs : List Char) :
    (radixOf c cs).2.2.length ≤ cs.length + 1 := by
  unfold radixOf
  repeat' split
  all_goals simp only [List.length_cons]; omega

theorem length_dropWhile_lt {p : Char → Bool} {cs : List Char} (h : cs.takeWhile p ≠ []) :
    (cs.dropWhile p).length < cs.length := by
  cases cs with
  | nil => simp at h
  | cons c cs =>
    by_cases hc : p c
    · have := length_dropWhile_le p cs
      simp only [List.dropWhile_cons, hc, if_true, List.length_cons]; omega
    · simp [hc] at h

theorem length_of_numeral {c : Char} {cs l rest : List Char} (h : numeral c cs = .ok (l, rest)) :
    rest.length ≤ cs.length := by
  have hb := length_radixOf c cs
  unfold numeral at h
  generalize radixOf c cs = r at h hb
  obtain ⟨radix, mark, body⟩ := r
  simp only at h hb
  split at h
  · cases h
  · rename_i hd
    have hne : body.takeWhile (isNumeralChar radix) ≠ [] := by
      intro he
      simp [he] at hd
    have := length_dropWhile_lt hne
    split at h
    · cases h
    · split at h
      · cases h; omega
      · cases h

theorem length_of_literal (due : Due) {cs l rest : List Char}
    (h : literal due cs = .ok (l, rest)) : rest.length ≤ cs.length := by
  induction cs generalizing due l with
  | nil => cases due <;> simp [literal] at h
  | cons c cs ih =>
    have step {due' : Due} (h' : (do
        let (inner, rest) ← literal due' cs
        return (c :: inner, rest)) = Except.ok (ε := Fault) (l, rest)) :
        rest.length ≤ (c :: cs).length := by
      cases hl : literal due' cs with
      | error e => simp [hl, bind, Except.bind] at h'
      | ok p =>
        simp only [hl, bind, Except.bind, pure, Except.pure, Except.ok.injEq, Prod.mk.injEq] at h'
        have := ih (l := p.1) due' (by rw [hl, ← h'.2])
        simp only [List.length_cons]; omega
    cases due with
    | any =>
      unfold literal at h
      split at h
      · cases h; simp
      · split at h
        · cases h
        · exact step h
    | escape =>
      unfold literal at h
      split at h
      · cases h
      · exact step h
    | digits radix count =>
      unfold literal at h
      split at h
      · exact step h
      · cases h

theorem length_of_lexeme {c : Char} {cs l rest : List Char} (h : lexeme c cs = .ok (l, rest)) :
    rest.length ≤ cs.length := by
  unfold lexeme at h
  split at h
  · cases h; exact length_dropWhile_le _ _
  · split at h
    · exact length_of_numeral h
    · split at h
      · cases hl : literal .any cs with
        | error e => simp [hl, bind, Except.bind] at h
        | ok p =>
          simp only [hl, bind, Except.bind, pure, Except.pure, Except.ok.injEq, Prod.mk.injEq] at h
          exact length_of_literal (l := p.1) .any (by rw [hl, ← h.2])
      · split at h
        · cases h; simp
        · cases h; simp

/-- The tokens of `cs`. -/
def tokens (cs : List Char) : Except Fault (List (List Char)) :=
  match _h : skip cs with
  | .error e => .error e
  | .ok [] => .ok []
  | .ok (c :: rest) =>
    match _h' : lexeme c rest with
    | .error e => .error e
    | .ok (l, rest') =>
      match tokens rest' with
      | .error e => .error e
      | .ok ls => .ok (l :: ls)
termination_by cs.length
decreasing_by
  have h₁ := length_of_skip (by assumption)
  have h₂ := length_of_lexeme (by assumption)
  simp only [List.length_cons] at h₁
  omega

/-- The tokens of a whole source: a byte order mark at its start is passed over. -/
def sourceTokens : List Char → Except Fault (List (List Char))
  | [] => .ok []
  | c :: cs => if c.toNat = 0xFEFF then tokens cs else tokens (c :: cs)

/-- The characters before the first NUL or malformed byte, and which of the two ends them. -/
def readable : List Rune → List Char × Option LexicalError
  | [] => ([], none)
  | .stray _ :: _ => ([], some .malformedEncoding)
  | .scalar c :: rs =>
    if c.toNat = 0 then ([], some .nulCharacter)
    else
      let (cs, defect) := readable rs
      (c :: cs, defect)

end Lexer

/-- A place in the source: line and column, both counted from one. -/
structure Place where
  line : Nat
  column : Nat
  deriving DecidableEq, Repr

/-- The place right after the given characters. -/
def Place.after (cs : List Char) : Place :=
  ⟨cs.count '\n' + 1, (cs.reverse.takeWhile (· != '\n')).length + 1⟩

/-- A defect of the source at a place. -/
structure LexicalFault where
  cause : LexicalError
  place : Place
  deriving DecidableEq, Repr

/-- The report of a defect. -/
def LexicalFault.message (f : LexicalFault) : Text :=
  utf8 "<input>:" ++ Text.ofNat f.place.line ++ utf8 ":" ++ Text.ofNat f.place.column ++
    utf8 ": " ++ utf8 f.cause.message

/-- The tokens of a source text, or its first defect. -/
def tokenize (source : Text) : Except LexicalFault (List Token) :=
  let (cs, defect) := Lexer.readable source.runes
  let fault (cause : LexicalError) (rest : List Char) : LexicalFault :=
    ⟨cause, Place.after (cs.take (cs.length - rest.length))⟩
  match Lexer.sourceTokens cs, defect with
  | .ok ls, none => .ok (ls.map Text.ofChars)
  | .ok _, some d => .error (fault d [])
  | .error f, none => .error (fault f.cause f.rest)
  | .error f, some d => .error (if f.rest = [] then fault d [] else fault f.cause f.rest)

end Scriptlet
