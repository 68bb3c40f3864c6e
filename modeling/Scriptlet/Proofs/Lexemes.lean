import Scriptlet.Proofs.Numerals

/-!
# Scriptlet.Proofs.Lexemes — the lexer takes one token

Where no separator begins, the lexer takes a token off the front of the source exactly if the token
stands free there (`lexeme_eq_ok_iff`): what comes behind it does not cling to it.  A character that
clings to a token makes it longer, or spoils it, or makes a comment of it.  A token that stands free
is the longest one at its place (`Stands.longest`).
-/

namespace Scriptlet

namespace Lexicon

open Lexer

/-! ### What clings to a token -/

/-- Whether the character `d`, right behind the token `l`, is drawn into the token or makes a comment
of it. -/
def clings : List Char → Char → Bool
  | [], _ => false
  | c :: cs, d =>
    if isLetter c then isWordChar d
    else if isDigit c then
      isNumeralChar (radixOf c cs).1 d || cs.isEmpty && !(radixOf c [d]).2.1.isEmpty
    else cs.isEmpty && (c == '=' && d == '=' || c == '/' && (d == '/' || d == '*'))

/-- The token `l` stands free, with `rest` behind it. -/
structure Stands (l rest : List Char) : Prop where
  lexeme : Lexeme l
  free : ∀ d ∈ rest.head?, clings l d = false

section Clings

variable {c d : Char} {cs l rest : List Char}

theorem clings_letter (hc : isLetter c) : clings (c :: cs) d = isWordChar d := if_pos hc

theorem clings_digit (hc : isDigit c) :
    clings (c :: cs) d =
      (isNumeralChar (radixOf c cs).1 d || cs.isEmpty && !(radixOf c [d]).2.1.isEmpty) := by
  rw [clings, if_neg (by simp [isLetter_of_isDigit hc]), if_pos hc]

theorem clings_other (hletter : isLetter c = false) (hdigit : isDigit c = false) :
    clings (c :: cs) d =
      (cs.isEmpty && (c == '=' && d == '=' || c == '/' && (d == '/' || d == '*'))) := by
  rw [clings, if_neg (by simp [hletter]), if_neg (by simp [hdigit])]

/-- White space clings to nothing. -/
theorem clings_space (hd : isSpace d) : clings l d = false := by
  have hword : isWordChar d = false := by
    rcases isSpace_iff.1 hd with rfl | rfl | rfl | rfl <;> decide
  have hnumeral : ∀ radix, isNumeralChar radix d = false := by
    intro radix
    rcases isSpace_iff.1 hd with rfl | rfl | rfl | rfl <;> cases radix <;> decide
  have hmark : ∀ c, (radixOf c [d]).2.1 = [] := by
    intro c
    rcases radixOf_cases c [d] with ⟨radix, x, ds, -, heq, hx⟩ | heq
    · obtain ⟨rfl, -⟩ := List.cons.inj heq
      rcases isSpace_iff.1 hd with rfl | rfl | rfl | rfl <;> cases radix <;> simp [Radix.marks] at hx
    · rw [heq]
  cases l with
  | nil => rfl
  | cons c cs =>
    by_cases hletter : isLetter c
    · rw [clings_letter hletter, hword]
    · by_cases hdigit : isDigit c
      · rw [clings_digit hdigit, hnumeral, hmark]
        simp
      · rw [clings_other (by simpa using hletter) (by simpa using hdigit)]
        rcases isSpace_iff.1 hd with rfl | rfl | rfl | rfl <;> simp

/-- A literal that stands free has the radix that the lexer sees in the source. -/
theorem radixOf_of_free (hc : isDigit c) (hfree : ∀ d ∈ rest.head?, clings (c :: cs) d = false) :
    radixOf c (cs ++ rest) =
      ((radixOf c cs).1, (radixOf c cs).2.1, (radixOf c cs).2.2 ++ rest) := by
  by_cases hcs : cs = []
  · subst hcs
    cases rest with
    | nil => simp
    | cons d rest =>
      have hd := hfree d rfl
      rw [clings_digit hc] at hd
      have hmark : (radixOf c ([d] ++ rest)).2.1 = [] := by
        rw [radixOf_append c (List.cons_ne_nil d [])]
        simpa using (Bool.or_eq_false_iff.1 hd).2
      have hradix := radixOf_unmarked hmark
      rw [radixOf_nil] at hradix ⊢
      exact hradix
  · exact radixOf_append c hcs rest

/-- Where the lexer stops, nothing clings to the literal. -/
theorem free_of_stop {radix : Radix} {mark ds : List Char} (hc : isDigit c)
    (hr : radixOf c (cs ++ rest) = (radix, mark, ds ++ rest)) (hl : mark ++ ds = c :: cs)
    (hstop : ∀ d ∈ rest.head?, isNumeralChar radix d = false) :
    ∀ d ∈ rest.head?, clings (c :: cs) d = false := by
  intro d hd
  have hradix := radixOf_of_append hr hl
  rw [clings_digit hc, hradix, hstop d hd, Bool.false_or]
  cases cs with
  | cons a cs => rfl
  | nil =>
    -- a mark behind the first character would be part of the literal
    obtain ⟨r, rfl⟩ : ∃ r, rest = d :: r := List.head?_eq_some_iff.1 hd
    have hmark : mark = [] := by
      rw [radixOf_nil] at hradix
      exact (Prod.mk.inj (Prod.mk.inj hradix).2).1.symm
    have happend := radixOf_append c (List.cons_ne_nil d []) r
    rw [List.nil_append] at hr
    rw [List.singleton_append, hr, hmark, Prod.mk.injEq, Prod.mk.injEq] at happend
    rw [← happend.2.1]
    rfl

/-- **The lexer takes exactly the integer literals that stand free.** -/
theorem numeral_eq_ok_iff (hc : isDigit c) :
    numeral c cs = .ok (l, rest) ↔
      c :: cs = l ++ rest ∧ IntegerLiteral l ∧ ∀ d ∈ rest.head?, clings l d = false := by
  constructor
  · intro h
    -- the run of digits is what the lexer takes, after the mark
    have hsplit := mark_append_body c cs
    generalize hr : radixOf c cs = r at hsplit
    obtain ⟨radix, mark, body⟩ := r
    dsimp only at hsplit
    have hbody := List.takeWhile_append_dropWhile (p := isNumeralChar radix) (l := body)
    have hds := List.all_eq_true.1 (List.all_takeWhile (p := isNumeralChar radix) (l := body))
    have hstop := head?_dropWhile_stop (isNumeralChar radix) body
    generalize body.takeWhile (isNumeralChar radix) = ds at hbody hds
    generalize body.dropWhile (isNumeralChar radix) = rest' at hbody hstop
    subst hbody
    obtain ⟨hnumeral, rfl, rfl⟩ := (numeral_of_radixOf hr hds hstop).1 h
    rw [← List.append_assoc] at hsplit
    obtain ⟨cs', hl, rfl⟩ : ∃ cs', mark ++ ds = c :: cs' ∧ cs = cs' ++ rest' := by
      obtain ⟨d, hd, -⟩ := hnumeral.exists_digit
      obtain ⟨a, cs', ha⟩ := List.exists_cons_of_ne_nil
        (List.append_ne_nil_of_right_ne_nil mark (List.ne_nil_of_mem hd))
      rw [ha, List.cons_append, List.cons.injEq] at hsplit
      exact ⟨cs', by rw [ha, hsplit.1], hsplit.2.symm⟩
    rw [hl]
    refine ⟨rfl, ?_, free_of_stop hc hr hl hstop⟩
    rw [integerLiteral_iff, radixOf_of_append hr hl]
    exact ⟨hc, hnumeral⟩
  · rintro ⟨heq, hl, hfree⟩
    cases l with
    | nil => cases hl; contradiction
    | cons a l =>
      obtain ⟨rfl, rfl⟩ := List.cons.inj heq
      obtain ⟨-, hnumeral⟩ := integerLiteral_iff.1 hl
      refine (numeral_of_radixOf (radixOf_of_free hc hfree) hnumeral.isNumeralChar fun d hd => ?_).2
        ⟨hnumeral, mark_append_body c l, rfl⟩
      have hd' := hfree d hd
      rw [clings_digit hc, Bool.or_eq_false_iff] at hd'
      exact hd'.1

end Clings

/-! ### String literals -/

section Strings

variable {due : Due} {c : Char} {cs l rest : List Char}

/-- What the lexer still wants of an escape. -/
def Admits : Due → List Char → Prop
  | .any, front => front = []
  | .escape, front => Escape front
  | .digits radix count, front => front.length = count ∧ ∀ d ∈ front, d ∈ radix.digits

/-- What an escape goes on with, by its first character. -/
theorem escapeDue?_cases (h : escapeDue? c = some due) :
    (c ∈ ['a', 'b', 'f', 'n', 'r', 't', 'v', '\\', '"'] ∧ due = .any) ∨
      (c ∈ Radix.octal.digits ∧ due = .digits .octal 2) ∨
      ∃ count, (c, count) ∈ [('x', 2), ('u', 4), ('U', 8)] ∧ due = .digits .hexadecimal count := by
  unfold escapeDue? at h
  split at h
  · next hc => exact .inl ⟨hc, (Option.some.inj h).symm⟩
  split at h
  · next hc =>
    refine .inr (.inl ⟨?_, (Option.some.inj h).symm⟩)
    have hcode : ∀ a : Char, c = a ↔ c.toNat = a.toNat := fun a => Char.toNat_inj.symm
    rw [Bool.and_eq_true, decide_eq_true_eq, decide_eq_true_eq, Char.le_def, Char.le_def,
      UInt32.le_iff_toNat_le, UInt32.le_iff_toNat_le] at hc
    have hlow : 48 ≤ c.toNat := hc.1
    have hhigh : c.toNat ≤ 55 := hc.2
    simp only [Radix.digits, List.mem_cons, List.not_mem_nil, or_false, hcode, Char.reduceToNat]
    omega
  split at h
  · next hc => exact .inr (.inr ⟨2, by simp [hc], (Option.some.inj h).symm⟩)
  split at h
  · next hc => exact .inr (.inr ⟨4, by simp [hc], (Option.some.inj h).symm⟩)
  split at h
  · next hc => exact .inr (.inr ⟨8, by simp [hc], (Option.some.inj h).symm⟩)
  · cases h

/-- An escape is over after its first character, or it goes on with digits. -/
theorem escapeDue?_eq_some (h : escapeDue? c = some due) :
    due ≠ .escape ∧ ∀ radix, due ≠ .digits radix 0 := by
  rcases escapeDue?_cases h with ⟨-, rfl⟩ | ⟨-, rfl⟩ | ⟨count, hcount, rfl⟩
  · exact ⟨nofun, nofun⟩
  · exact ⟨nofun, nofun⟩
  · refine ⟨nofun, fun radix heq => ?_⟩
    obtain ⟨-, rfl⟩ := Due.digits.inj heq
    simp at hcount

theorem escape_cons_iff {front : List Char} :
    Escape (c :: front) ↔ ∃ due, escapeDue? c = some due ∧ Admits due front := by
  constructor
  · intro h
    cases h with
    | short hc => exact ⟨.any, if_pos hc, rfl⟩
    | octal hlength hds =>
      obtain ⟨hc, hfront⟩ := List.forall_mem_cons.1 hds
      have hdue : Radix.octal.digits.all (escapeDue? · == some (.digits .octal 2)) := rfl
      exact ⟨_, eq_of_beq (List.all_eq_true.1 hdue c hc), Nat.succ.inj hlength, hfront⟩
    | hexadecimal hc hds =>
      simp only [List.mem_cons, List.not_mem_nil, or_false, Prod.mk.injEq] at hc
      rcases hc with ⟨rfl, hlength⟩ | ⟨rfl, hlength⟩ | ⟨rfl, hlength⟩
      all_goals exact ⟨_, rfl, hlength, hds⟩
  · rintro ⟨due, hdue, hfront⟩
    rcases escapeDue?_cases hdue with ⟨hc, rfl⟩ | ⟨hc, rfl⟩ | ⟨count, hc, rfl⟩
    · obtain rfl : front = [] := hfront
      exact .short hc
    · exact .octal (congrArg Nat.succ hfront.1) (List.forall_mem_cons.2 ⟨hc, hfront.2⟩)
    · exact .hexadecimal (hfront.1 ▸ hc) hfront.2

/-- The lexer puts the character `c` in front of what it takes after it. -/
theorem literal_bind_ok :
    (do
      let (inner, rest) ← literal due cs
      return (c :: inner, rest)) = Except.ok (ε := Fault) (l, rest) ↔
      ∃ inner, literal due cs = .ok (inner, rest) ∧ l = c :: inner := by
  cases h : literal due cs with
  | error e => simp [bind, Except.bind]
  | ok p =>
    obtain ⟨inner, rest'⟩ := p
    simp only [bind, Except.bind, pure, Except.pure, Except.ok.injEq, Prod.mk.injEq]
    constructor
    · rintro ⟨rfl, rfl⟩
      exact ⟨inner, ⟨rfl, rfl⟩, rfl⟩
    · rintro ⟨_, ⟨rfl, rfl⟩, rfl⟩
      exact ⟨rfl, rfl⟩

theorem literal_sound (h : literal due cs = .ok (l, rest)) (hdue : ∀ radix, due ≠ .digits radix 0) :
    ∃ front body, Admits due front ∧ StringBody body ∧ l = front ++ (body ++ ['"']) ∧
      cs = l ++ rest := by
  induction cs generalizing due l with
  | nil => cases due <;> simp [literal] at h
  | cons c cs ih =>
    cases due with
    | any =>
      unfold literal at h
      split at h
      · next hc =>
        obtain ⟨rfl, rfl⟩ := Prod.mk.inj (Except.ok.inj h)
        exact ⟨[], [], rfl, .nil, by rw [hc]; rfl, rfl⟩
      · next hquote =>
        split at h
        · cases h
        · next hnewline =>
          obtain ⟨inner, hinner, rfl⟩ := literal_bind_ok.1 h
          by_cases hc : c = '\\'
          · rw [if_pos hc] at hinner
            obtain ⟨front, body, hfront, hbody, rfl, rfl⟩ := ih hinner (by simp)
            exact ⟨[], '\\' :: (front ++ body), rfl, .escape hfront hbody, by simp [hc], rfl⟩
          · rw [if_neg hc] at hinner
            obtain ⟨front, body, rfl, hbody, rfl, rfl⟩ := ih hinner (by simp)
            exact ⟨[], c :: body, rfl, .plain (by simp [hquote, hnewline, hc]) hbody, rfl, rfl⟩
    | escape =>
      unfold literal at h
      split at h
      · cases h
      · next due' hc =>
        obtain ⟨inner, hinner, rfl⟩ := literal_bind_ok.1 h
        obtain ⟨front, body, hfront, hbody, rfl, rfl⟩ := ih hinner (escapeDue?_eq_some hc).2
        exact ⟨c :: front, body, escape_cons_iff.2 ⟨due', hc, hfront⟩, hbody, rfl, rfl⟩
    | digits radix count =>
      unfold literal at h
      split at h
      · next hc =>
        obtain ⟨inner, hinner, rfl⟩ := literal_bind_ok.1 h
        have hmem := isEscapeDigit_iff.1 hc
        have hcount : count ≠ 0 := fun h0 => hdue radix (by rw [h0])
        by_cases hlast : count ≤ 1
        · rw [if_pos hlast] at hinner
          obtain ⟨front, body, rfl, hbody, rfl, rfl⟩ := ih hinner (by simp)
          have hone : count = 1 := by omega
          exact ⟨[c], body, ⟨hone.symm, List.forall_mem_singleton.2 hmem⟩, hbody, rfl, rfl⟩
        · rw [if_neg hlast] at hinner
          have hdue' : ∀ radix', Due.digits radix (count - 1) ≠ .digits radix' 0 := by
            intro radix' heq
            injection heq with _ h0
            omega
          obtain ⟨front, body, ⟨hlength, hfront⟩, hbody, rfl, rfl⟩ := ih hinner hdue'
          refine ⟨c :: front, body, ⟨?_, List.forall_mem_cons.2 ⟨hmem, hfront⟩⟩, hbody, rfl, rfl⟩
          rw [List.length_cons]
          omega
      · cases h

theorem literal_digits {radix : Radix} {front : List Char} (hne : front ≠ [])
    (hfront : ∀ d ∈ front, d ∈ radix.digits) (h : literal .any cs = .ok (l, rest)) :
    literal (.digits radix front.length) (front ++ cs) = .ok (front ++ l, rest) := by
  induction front with
  | nil => exact absurd rfl hne
  | cons c front ih =>
    obtain ⟨hc, hfront⟩ := List.forall_mem_cons.1 hfront
    rw [List.cons_append, literal, if_pos (isEscapeDigit_iff.2 hc)]
    refine literal_bind_ok.2 ⟨front ++ l, ?_, rfl⟩
    by_cases hf : front = []
    · subst hf
      exact h
    · have hlength : ¬ (c :: front).length ≤ 1 := by
        have := List.length_pos_iff.2 hf
        rw [List.length_cons]
        omega
      rw [if_neg hlength]
      exact ih hf hfront

theorem literal_escape {e : List Char} (he : Escape e) (h : literal .any cs = .ok (l, rest)) :
    literal .escape (e ++ cs) = .ok (e ++ l, rest) := by
  cases e with
  | nil => cases he; contradiction
  | cons c front =>
    obtain ⟨due, hdue, hfront⟩ := escape_cons_iff.1 he
    rw [List.cons_append, literal, hdue]
    refine literal_bind_ok.2 ⟨front ++ l, ?_, rfl⟩
    cases due with
    | any =>
      obtain rfl : front = [] := hfront
      exact h
    | escape => exact absurd rfl (escapeDue?_eq_some hdue).1
    | digits radix count =>
      obtain ⟨rfl, hfront⟩ := hfront
      refine literal_digits ?_ hfront h
      rintro rfl
      exact (escapeDue?_eq_some hdue).2 radix rfl

theorem literal_complete {body : List Char} (hbody : StringBody body) (rest : List Char) :
    literal .any (body ++ '"' :: rest) = .ok (body ++ ['"'], rest) := by
  induction hbody with
  | nil => rfl
  | @plain c body hc _ ih =>
    simp only [List.mem_cons, List.not_mem_nil, or_false, not_or] at hc
    obtain ⟨hquote, hback, hnewline⟩ := hc
    rw [List.cons_append, literal, if_neg hquote, if_neg hnewline, if_neg hback]
    exact literal_bind_ok.2 ⟨_, ih, rfl⟩
  | @escape e body he _ ih =>
    rw [List.cons_append, List.append_assoc, literal, if_neg (by decide), if_neg (by decide),
      if_pos rfl]
    exact literal_bind_ok.2 ⟨_, literal_escape he ih, by simp⟩

/-- **The lexer takes exactly the string literals, up to their closing quotes.** -/
theorem literal_eq_ok_iff :
    literal .any cs = .ok (l, rest) ↔
      ∃ body, StringBody body ∧ l = body ++ ['"'] ∧ cs = l ++ rest := by
  constructor
  · intro h
    obtain ⟨front, body, rfl, hbody, rfl, rfl⟩ := literal_sound h (by simp)
    exact ⟨body, hbody, rfl, rfl⟩
  · rintro ⟨body, hbody, rfl, rfl⟩
    rw [List.append_assoc, List.singleton_append]
    exact literal_complete hbody rest

end Strings

/-! ### Tokens -/

section Tokens

variable {c d : Char} {cs l rest : List Char}

/-! The first character of a token decides of which kind it is. -/

theorem Lexeme.of_letter (h : Lexeme (c :: cs)) (hc : isLetter c) : ∀ d ∈ cs, isWordChar d := by
  cases h with
  | word _ hcs => exact hcs
  | integer h =>
    have hnot := isLetter_of_isDigit (integerLiteral_iff.1 h).1
    rw [hc] at hnot
    cases hnot
  | string _ => exact absurd hc (by decide)
  | equality => exact absurd hc (by decide)
  | symbol hc' =>
    rw [(isSymbol_iff.1 hc').2.1] at hc
    cases hc

theorem Lexeme.of_digit (h : Lexeme (c :: cs)) (hc : isDigit c) : IntegerLiteral (c :: cs) := by
  cases h with
  | word hc' _ =>
    rw [isLetter_of_isDigit hc] at hc'
    cases hc'
  | integer h => exact h
  | string _ => exact absurd hc (by decide)
  | equality => exact absurd hc (by decide)
  | symbol hc' =>
    rw [(isSymbol_iff.1 hc').2.2.1] at hc
    cases hc

theorem Lexeme.of_quote (h : Lexeme ('"' :: cs)) : ∃ body, StringBody body ∧ cs = body ++ ['"'] := by
  cases h with
  | word hc _ => exact absurd hc (by decide)
  | integer h => exact absurd (integerLiteral_iff.1 h).1 (by decide)
  | string h => exact ⟨_, h, rfl⟩
  | symbol hc => exact absurd hc (by decide)

theorem Lexeme.of_other (h : Lexeme (c :: cs)) (hletter : isLetter c = false)
    (hdigit : isDigit c = false) (hquote : c ≠ '"') : cs = [] ∨ c = '=' ∧ cs = ['='] := by
  cases h with
  | word hc _ =>
    rw [hletter] at hc
    cases hc
  | integer h =>
    have hc := (integerLiteral_iff.1 h).1
    rw [hdigit] at hc
    cases hc
  | string _ => exact absurd rfl hquote
  | equality => exact .inr ⟨rfl, rfl⟩
  | symbol _ => exact .inl rfl

theorem not_lexeme_nil : ¬ Lexeme [] := by
  intro h
  cases h with
  | integer h => cases h; contradiction

theorem Lexeme.isSpace_head (h : Lexeme (c :: cs)) : isSpace c = false := by
  rw [← Bool.not_eq_true, isSpace_iff]
  rintro (rfl | rfl | rfl | rfl)
  all_goals
    cases h with
    | word hc _ => exact absurd hc (by decide)
    | integer h => exact absurd (integerLiteral_iff.1 h).1 (by decide)
    | symbol hc => exact absurd hc (by decide)

/-! A token that stands free is the longest one at its place. -/

/-- What would make a literal longer clings to it. -/
theorem clings_of_longer_integer {more : List Char} (h : IntegerLiteral (c :: (cs ++ d :: more))) :
    clings (c :: cs) d := by
  obtain ⟨hc, hnumeral⟩ := integerLiteral_iff.1 h
  rw [clings_digit hc, Bool.or_eq_true]
  by_cases hcs : cs = []
  · subst hcs
    by_cases hmark : (radixOf c [d]).2.1 = []
    · have hradix : radixOf c (d :: more) = ((radixOf c []).1, [], c :: d :: more) := by
        refine radixOf_unmarked ?_
        rw [← List.singleton_append, radixOf_append c (List.cons_ne_nil d [])]
        exact hmark
      rw [List.nil_append, hradix] at hnumeral
      exact .inl (hnumeral.isNumeralChar d (by simp))
    · exact .inr (by simpa using hmark)
  · rw [radixOf_append c hcs] at hnumeral
    exact .inl (hnumeral.isNumeralChar d (by simp))

theorem clings_of_longer {more : List Char} (h : Lexeme l) (h' : Lexeme (l ++ d :: more)) :
    clings l d := by
  cases l with
  | nil => exact absurd h not_lexeme_nil
  | cons c cs =>
    rw [List.cons_append] at h'
    by_cases hletter : isLetter c
    · rw [clings_letter hletter]
      exact h'.of_letter hletter d (by simp)
    · by_cases hdigit : isDigit c
      · exact clings_of_longer_integer (h'.of_digit hdigit)
      · by_cases hquote : c = '"'
        · -- both literals are what the lexer takes
          subst hquote
          obtain ⟨body, hbody, rfl⟩ := h.of_quote
          obtain ⟨body', hbody', heq⟩ := h'.of_quote
          have hread := literal_complete hbody (d :: more)
          have hread' := literal_complete hbody' []
          rw [List.append_cons, heq, hread'] at hread
          exact absurd (Prod.mk.inj (Except.ok.inj hread)).2 nofun
        · rw [Bool.not_eq_true] at hletter hdigit
          rcases h'.of_other hletter hdigit hquote with hnil | ⟨rfl, heq⟩
          · simp at hnil
          · obtain ⟨rfl, hcons⟩ : cs = [] ∧ d :: more = ['='] := by
              cases cs with
              | nil => exact ⟨rfl, heq⟩
              | cons a cs => simp at heq
            obtain ⟨rfl, -⟩ := List.cons.inj hcons
            rfl

theorem Stands.longest (h : Stands l rest) : Longest l rest := by
  refine ⟨h.lexeme, fun l' hl' hprefix => ?_, ?_, ?_⟩
  · refine Nat.le_of_not_lt fun hlong => ?_
    have hll' : l <+: l' :=
      List.prefix_of_prefix_length_le (List.prefix_append l rest) hprefix (by omega)
    obtain ⟨more, rfl⟩ := hll'
    rw [List.prefix_append_right_inj] at hprefix
    cases more with
    | nil => simp at hlong
    | cons d more =>
      obtain ⟨r, rfl⟩ := hprefix
      have hfree := h.free d rfl
      rw [clings_of_longer h.lexeme hl'] at hfree
      cases hfree
  · rintro rfl hhead
    exact absurd (h.free '=' hhead) (by decide)
  · rintro rfl
    constructor
    · intro hhead
      exact absurd (h.free '/' hhead) (by decide)
    · intro hhead
      exact absurd (h.free '*' hhead) (by decide)

/-! ### The lexer -/

/-- No separator begins here. -/
structure Bare (cs : List Char) : Prop where
  space : ∀ c ∈ cs.head?, isSpace c = false
  line : ¬ ['/', '/'] <+: cs
  block : ¬ ['/', '*'] <+: cs

theorem Stands.exists_cons (h : Stands l rest) (heq : c :: cs = l ++ rest) :
    ∃ l', l = c :: l' ∧ cs = l' ++ rest := by
  cases l with
  | nil => exact absurd h.lexeme not_lexeme_nil
  | cons a l' =>
    obtain ⟨rfl, rfl⟩ := List.cons.inj heq
    exact ⟨l', rfl, rfl⟩

theorem Stands.bare (h : Stands l rest) : Bare (l ++ rest) := by
  have hlexeme := h.lexeme
  cases l with
  | nil => exact absurd hlexeme not_lexeme_nil
  | cons c cs =>
    have hslash : ∀ d, clings ['/'] d → ¬ ['/', d] <+: c :: cs ++ rest := by
      intro d hd hprefix
      rw [List.cons_append, List.cons_prefix_cons] at hprefix
      obtain ⟨rfl, hprefix⟩ := hprefix
      obtain rfl : cs = [] :=
        (hlexeme.of_other rfl rfl (by decide)).resolve_right fun h => absurd h.1 (by decide)
      obtain ⟨r, rfl⟩ := hprefix
      have hfree := h.free d rfl
      rw [hd] at hfree
      cases hfree
    refine ⟨?_, hslash '/' rfl, hslash '*' rfl⟩
    rintro _ ⟨⟩
    exact hlexeme.isSpace_head

/-! One lemma for each way in which a token begins. -/

theorem lexeme_of_letter (hletter : isLetter c) :
    lexeme c cs = .ok (l, rest) ↔ c :: cs = l ++ rest ∧ Stands l rest := by
  rw [lexeme, if_pos hletter, Except.ok.injEq, Prod.mk.injEq]
  constructor
  · rintro ⟨rfl, rfl⟩
    refine ⟨by simp, .word hletter (List.all_eq_true.1 List.all_takeWhile), fun d hd => ?_⟩
    rw [clings_letter hletter]
    exact head?_dropWhile_stop isWordChar cs d hd
  · rintro ⟨heq, hl⟩
    obtain ⟨l, rfl, rfl⟩ := hl.exists_cons heq
    have hfree := hl.free
    simp only [clings_letter hletter] at hfree
    obtain ⟨htake, hdrop⟩ := takeWhile_append_stop (hl.lexeme.of_letter hletter) hfree
    rw [htake, hdrop]
    exact ⟨rfl, rfl⟩

theorem lexeme_of_digit (hdigit : isDigit c) :
    lexeme c cs = .ok (l, rest) ↔ c :: cs = l ++ rest ∧ Stands l rest := by
  have hletter : ¬ isLetter c := by
    rw [isLetter_of_isDigit hdigit]
    decide
  rw [lexeme, if_neg hletter, if_pos hdigit, numeral_eq_ok_iff hdigit]
  constructor
  · rintro ⟨heq, hl, hfree⟩
    exact ⟨heq, .integer hl, hfree⟩
  · rintro ⟨heq, hl⟩
    obtain ⟨l, rfl, rfl⟩ := hl.exists_cons heq
    exact ⟨rfl, hl.lexeme.of_digit hdigit, hl.free⟩

theorem lexeme_of_quote :
    lexeme '"' cs = .ok (l, rest) ↔ '"' :: cs = l ++ rest ∧ Stands l rest := by
  rw [lexeme, if_neg (by decide), if_neg (by decide), if_pos rfl, literal_bind_ok]
  constructor
  · rintro ⟨inner, hinner, rfl⟩
    obtain ⟨body, hbody, rfl, rfl⟩ := literal_eq_ok_iff.1 hinner
    refine ⟨rfl, .string hbody, fun d _ => ?_⟩
    rw [clings_other rfl rfl]
    simp
  · rintro ⟨heq, hl⟩
    obtain ⟨l, rfl, rfl⟩ := hl.exists_cons heq
    obtain ⟨body, hbody, rfl⟩ := hl.lexeme.of_quote
    exact ⟨_, literal_eq_ok_iff.2 ⟨body, hbody, rfl, rfl⟩, rfl⟩

theorem lexeme_of_equality :
    lexeme '=' ('=' :: cs) = .ok (l, rest) ↔ '=' :: '=' :: cs = l ++ rest ∧ Stands l rest := by
  rw [lexeme, if_neg (by decide), if_neg (by decide), if_neg (by decide), if_pos ⟨rfl, rfl⟩,
    Except.ok.injEq, Prod.mk.injEq]
  constructor
  · rintro ⟨rfl, rfl⟩
    exact ⟨rfl, .equality, fun _ _ => rfl⟩
  · rintro ⟨heq, hl⟩
    obtain ⟨l, rfl, hcs⟩ := hl.exists_cons heq
    rcases hl.lexeme.of_other rfl rfl (by decide) with rfl | ⟨-, rfl⟩
    · rw [List.nil_append] at hcs
      exact absurd (hl.free '=' (hcs ▸ rfl)) (by decide)
    · obtain ⟨-, rfl⟩ := List.cons.inj hcs
      exact ⟨rfl, rfl⟩

theorem lexeme_of_symbol (hbare : Bare (c :: cs)) (hc : isSymbol c)
    (hequals : ¬ (c = '=' ∧ cs.head? = some '=')) :
    lexeme c cs = .ok (l, rest) ↔ c :: cs = l ++ rest ∧ Stands l rest := by
  obtain ⟨-, hletter, hdigit, hquote⟩ := isSymbol_iff.1 hc
  rw [lexeme, if_neg (by rw [hletter]; decide), if_neg (by rw [hdigit]; decide), if_neg hquote,
    if_neg hequals, Except.ok.injEq, Prod.mk.injEq]
  constructor
  · rintro ⟨rfl, rfl⟩
    refine ⟨rfl, .symbol hc, fun d hd => ?_⟩
    obtain ⟨r, rfl⟩ : ∃ r, cs = d :: r := List.head?_eq_some_iff.1 hd
    rw [clings_other hletter hdigit, ← Bool.not_eq_true]
    simp only [List.isEmpty_nil, Bool.true_and, Bool.or_eq_true, Bool.and_eq_true, beq_iff_eq]
    rintro (⟨rfl, rfl⟩ | ⟨rfl, rfl | rfl⟩)
    · exact hequals ⟨rfl, rfl⟩
    · exact hbare.line (List.prefix_append ['/', '/'] r)
    · exact hbare.block (List.prefix_append ['/', '*'] r)
  · rintro ⟨heq, hl⟩
    obtain ⟨l, rfl, rfl⟩ := hl.exists_cons heq
    rcases hl.lexeme.of_other hletter hdigit hquote with rfl | ⟨rfl, rfl⟩
    · exact ⟨rfl, rfl⟩
    · exact absurd ⟨rfl, rfl⟩ hequals

/-- **The lexer takes exactly the tokens that stand free**, where no separator begins. -/
theorem lexeme_eq_ok_iff (hbare : Bare (c :: cs)) :
    lexeme c cs = .ok (l, rest) ↔ c :: cs = l ++ rest ∧ Stands l rest := by
  by_cases hletter : isLetter c
  · exact lexeme_of_letter hletter
  by_cases hdigit : isDigit c
  · exact lexeme_of_digit hdigit
  by_cases hquote : c = '"'
  · subst hquote
    exact lexeme_of_quote
  rw [Bool.not_eq_true] at hletter hdigit
  have hsymbol : isSymbol c := isSymbol_iff.2 ⟨hbare.space c rfl, hletter, hdigit, hquote⟩
  by_cases hequals : c = '=' ∧ cs.head? = some '='
  · obtain ⟨rfl, hhead⟩ := hequals
    obtain ⟨cs, rfl⟩ : ∃ r, cs = '=' :: r := List.head?_eq_some_iff.1 hhead
    exact lexeme_of_equality
  · exact lexeme_of_symbol hbare hsymbol hequals

end Tokens

end Lexicon

end Scriptlet
