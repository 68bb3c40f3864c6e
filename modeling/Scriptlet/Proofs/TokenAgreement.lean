import Scriptlet.Proofs.SourceText
import Scriptlet.Proofs.TokenClass
import Scriptlet.Run.Interpreter

/-!
# Scriptlet.Proofs.TokenAgreement — lexer, parser and evaluator agree on the kind of a token

The lexer tells tokens apart by their characters; the parser and the evaluator look at bytes.  The
classes in question hold ASCII codes only (`SameAscii`), and an ASCII code is one byte, which stands
in no other character.  So the kinds of the lexer can be read off the bytes
(`token_classes_agree`).

The lexer knows more literals than the parser.  An integer literal with a letter for its radix or
with an underscore, and a string literal with a carriage return inside, are tokens but no literals
of the parser (`token_classes_differ`).
-/

namespace Scriptlet

/-! ### Classes of bytes and of characters -/

/-- The byte class `p` and the character class `q` have the same codes, all of them ASCII. -/
structure SameAscii (p : UInt8 → Bool) (q : Char → Bool) : Prop where
  same : ∀ b c, b.toNat = c.toNat → p b = q c
  byte : ∀ b, p b → b.toNat < 0x80
  char : ∀ c, q c → c.toNat < 0x80

/-- A byte of a character is its code, or both are beyond ASCII. -/
theorem Text.of_mem_ofChar {b : UInt8} {c : Char} (h : b ∈ Text.ofChar c) :
    b.toNat = c.toNat ∨ 0x80 ≤ b.toNat ∧ 0x80 ≤ c.toNat := by
  have hmax := Rune.toNat_lt c
  have hbyte : ∀ n : Nat, b = UInt8.ofNat n → b.toNat = n % 256 := by
    rintro n rfl
    exact UInt8.toNat_ofNat'
  simp only [Text.ofChar, String.utf8EncodeChar, Char.toNat_val] at h
  split at h
  · have := hbyte _ (List.mem_singleton.1 h)
    omega
  · refine .inr ⟨?_, by omega⟩
    split at h
    · simp only [List.mem_cons, List.not_mem_nil, or_false] at h
      rcases h with h | h <;> have := hbyte _ h <;> omega
    · split at h
      · simp only [List.mem_cons, List.not_mem_nil, or_false] at h
        rcases h with h | h | h <;> have := hbyte _ h <;> omega
      · simp only [List.mem_cons, List.not_mem_nil, or_false] at h
        rcases h with h | h | h | h <;> have := hbyte _ h <;> omega

theorem Text.ofChar_ne_nil (c : Char) : Text.ofChar c ≠ [] := by
  intro h
  have hdecode := Rune.decode?_ofChar c []
  rw [h] at hdecode
  cases hdecode

section SameAscii

variable {p p' : UInt8 → Bool} {q q' : Char → Bool}

/-- Each byte of a character is in the class exactly if the character is. -/
theorem SameAscii.of_mem (h : SameAscii p q) {b : UInt8} {c : Char} (hb : b ∈ Text.ofChar c) :
    p b = q c := by
  rcases Text.of_mem_ofChar hb with hcode | ⟨hlow, hlow'⟩
  · exact h.same b c hcode
  · have hp : p b = false := Bool.eq_false_iff.2 fun hp => Nat.not_lt.2 hlow (h.byte b hp)
    have hq : q c = false := Bool.eq_false_iff.2 fun hq => Nat.not_lt.2 hlow' (h.char c hq)
    rw [hp, hq]

theorem SameAscii.all_ofChars (h : SameAscii p q) (cs : List Char) :
    (Text.ofChars cs).all p ↔ ∀ c ∈ cs, q c := by
  simp only [Text.ofChars, List.all_flatMap, List.all_eq_true]
  constructor
  · intro hall c hc
    obtain ⟨b, hb⟩ := List.exists_mem_of_ne_nil _ (Text.ofChar_ne_nil c)
    rw [← h.of_mem hb]
    exact hall c hc b hb
  · intro hall c hc b hb
    rw [h.of_mem hb]
    exact hall c hc

theorem SameAscii.or (h : SameAscii p q) (h' : SameAscii p' q') :
    SameAscii (fun b => p b || p' b) fun c => q c || q' c := by
  refine ⟨fun b c hcode => ?_, fun b hb => ?_, fun c hc => ?_⟩
  · rw [h.same b c hcode, h'.same b c hcode]
  · exact (Bool.or_eq_true _ _ ▸ hb).elim (h.byte b) (h'.byte b)
  · exact (Bool.or_eq_true _ _ ▸ hc).elim (h.char c) (h'.char c)

theorem sameAscii_digit : SameAscii isDigitByte Lexer.isDigit := by
  have hbyte : ∀ b, isDigitByte b ↔ 48 ≤ b.toNat ∧ b.toNat ≤ 57 := by
    intro b
    simp only [isDigitByte, Bool.and_eq_true, decide_eq_true_eq, UInt8.le_iff_toNat_le]
    rfl
  refine ⟨fun b c hcode => ?_, fun b hb => ?_, fun c hc => ?_⟩
  · rw [Bool.eq_iff_iff, hbyte, Lexer.isDigit_iff, hcode]
  · have := (hbyte b).1 hb
    omega
  · have := Lexer.isDigit_iff.1 hc
    omega

theorem sameAscii_letter : SameAscii isLetterByte Lexer.isLetter := by
  have hbyte : ∀ b, isLetterByte b ↔ b.toNat = 95 ∨ (97 ≤ b.toNat ∧ b.toNat ≤ 122) ∨
      (65 ≤ b.toNat ∧ b.toNat ≤ 90) := by
    intro b
    simp only [isLetterByte, Bool.or_eq_true, beq_iff_eq, Bool.and_eq_true, decide_eq_true_eq,
      UInt8.le_iff_toNat_le, or_assoc, ← UInt8.toNat_inj]
    rfl
  refine ⟨fun b c hcode => ?_, fun b hb => ?_, fun c hc => ?_⟩
  · rw [Bool.eq_iff_iff, hbyte, Lexer.isLetter_iff, hcode]
  · have := (hbyte b).1 hb
    omega
  · have := Lexer.isLetter_iff.1 hc
    omega

theorem sameAscii_word : SameAscii isWordByte Lexer.isWordChar := sameAscii_letter.or sameAscii_digit

/-- A class of a single code. -/
theorem sameAscii_code {a : UInt8} {d : Char} (hcode : a.toNat = d.toNat) (hd : d.toNat < 0x80) :
    SameAscii (· == a) (· == d) := by
  refine ⟨fun b c hbc => ?_, fun b hb => ?_, fun c hc => ?_⟩
  · rw [Bool.eq_iff_iff, beq_iff_eq, beq_iff_eq, ← UInt8.toNat_inj, ← Char.toNat_inj, hbc, hcode]
  · rw [eq_of_beq hb, hcode]
    exact hd
  · rw [eq_of_beq hc]
    exact hd

/-- An ASCII code among the bytes of a text is a character of it. -/
theorem Text.mem_ofChars {a : UInt8} {d : Char} (hcode : a.toNat = d.toNat) (hd : d.toNat < 0x80)
    {cs : List Char} : a ∈ Text.ofChars cs ↔ d ∈ cs := by
  have hsame := sameAscii_code hcode hd
  rw [Text.ofChars, List.mem_flatMap]
  constructor
  · rintro ⟨c, hc, ha⟩
    have hcd := hsame.of_mem ha
    rw [BEq.rfl, eq_comm, beq_iff_eq] at hcd
    exact hcd ▸ hc
  · intro hmem
    obtain ⟨b, hb⟩ := List.exists_mem_of_ne_nil _ (Text.ofChar_ne_nil d)
    have hba := hsame.of_mem hb
    rw [BEq.rfl, beq_iff_eq] at hba
    exact ⟨d, hmem, hba ▸ hb⟩

end SameAscii

/-! ### The kinds of tokens -/

namespace Lexicon

open Lexer

theorem Escape.not_newline {e : List Char} (h : Escape e) : '\n' ∉ e := by
  intro hmem
  cases h with
  | short hc =>
    rw [← List.mem_singleton.1 hmem] at hc
    exact absurd hc (by decide)
  | octal _ hds => exact absurd (hds _ hmem) (by decide)
  | @hexadecimal c ds hc hds =>
    rcases List.mem_cons.1 hmem with rfl | hmem
    · simp at hc
    · exact absurd (hds _ hmem) (by decide)

theorem StringBody.not_newline {body : List Char} (h : StringBody body) : '\n' ∉ body := by
  induction h with
  | nil => exact List.not_mem_nil
  | plain hc _ ih =>
    rw [List.mem_cons, not_or]
    refine ⟨?_, ih⟩
    rintro rfl
    exact hc (by decide)
  | escape he _ ih =>
    rw [List.mem_cons, List.mem_append, not_or, not_or]
    exact ⟨by decide, he.not_newline, ih⟩

variable {b : UInt8} {c : Char} {cs l : List Char}

theorem stringLiteral?_ofChars {body : List Char} (hbody : StringBody body) (hreturn : '\r' ∉ body) :
    Token.stringLiteral? (Text.ofChars ('"' :: (body ++ ['"']))) = some (Text.ofChars body) := by
  refine Token.stringLiteral?_eq_some.2 ⟨?_, fun b hb => ⟨?_, ?_⟩⟩
  · rw [← List.cons_append, Text.ofChars_append]
    rfl
  · rintro rfl
    exact hbody.not_newline ((Text.mem_ofChars rfl (by decide)).1 hb)
  · rintro rfl
    exact hreturn ((Text.mem_ofChars rfl (by decide)).1 hb)

/-- An integer literal has digits only, unless a letter marks its radix or it has underscores. -/
theorem IntegerLiteral.all_isDigit_iff (h : IntegerLiteral l) :
    (∀ c ∈ l, isDigit c) ↔ '_' ∉ l ∧ ∀ radix : Radix, ∀ x ∈ radix.marks, ¬ ['0', x] <+: l := by
  constructor
  · intro hall
    have hmark : ∀ radix : Radix, ∀ x ∈ radix.marks, isDigit x = false := by
      intro radix
      cases radix <;> simp [Radix.marks, isDigit]
    refine ⟨fun hmem => absurd (hall _ hmem) (by decide), fun radix x hx hstart => ?_⟩
    have hdigit := hall x (hstart.subset (by simp))
    rw [hmark radix x hx] at hdigit
    cases hdigit
  · rintro ⟨hunderscore, hmark⟩
    have hdigits : ∀ radix : Radix, radix ≠ .hexadecimal → Digits radix l → ∀ c ∈ l, isDigit c := by
      intro radix hradix hl c hc
      rcases hl.mem c hc with rfl | hmem
      · exact absurd hc hunderscore
      · obtain ⟨hnumeral, hne, -⟩ := mem_digits.1 hmem
        have hc' := (isNumeralChar_iff.1 hnumeral).resolve_left hne
        rwa [if_neg hradix] at hc'
    cases h with
    | decimal h _ => exact hdigits .decimal (by decide) h
    | octal h => exact hdigits .octal (by decide) h
    | marked hx _ => exact absurd (List.prefix_append _ _) (hmark _ _ hx)
    | markedUnderscore hx _ => exact absurd (List.prefix_append _ _) (hmark _ _ hx)

/-- A token and its first character begin with the same byte. -/
theorem Lexeme.exists_head (h : Lexeme l) :
    ∃ c cs b r, l = c :: cs ∧ Text.ofChars l = b :: r ∧ b ∈ Text.ofChar c := by
  cases l with
  | nil => exact absurd h not_lexeme_nil
  | cons c cs =>
    obtain ⟨b, r, hbytes⟩ := List.exists_cons_of_ne_nil (Text.ofChar_ne_nil c)
    refine ⟨c, cs, b, r ++ Text.ofChars cs, rfl, ?_, ?_⟩
    · rw [Text.ofChars, List.flatMap_cons, hbytes]
      rfl
    · rw [hbytes]
      exact List.mem_cons_self

theorem Lexeme.isIdent (h : Lexeme (c :: cs)) (hc : isLetter c) :
    Token.isIdent (Text.ofChars (c :: cs)) := by
  obtain ⟨_, _, b, r, heq, hbytes, hb⟩ := h.exists_head
  obtain ⟨rfl, rfl⟩ := List.cons.inj heq
  have hword : ∀ d ∈ c :: cs, isWordChar d := by
    refine List.forall_mem_cons.2 ⟨?_, h.of_letter hc⟩
    rw [isWordChar, hc, Bool.true_or]
  rw [← sameAscii_word.all_ofChars, hbytes, List.all_cons, Bool.and_eq_true] at hword
  rw [hbytes, Token.isIdent, sameAscii_letter.of_mem hb, hc, hword.2]
  rfl

theorem Lexeme.isIntLiteral_iff (h : Lexeme l) :
    Token.isIntLiteral (Text.ofChars l) ↔ ∀ d ∈ l, isDigit d := by
  obtain ⟨c, cs, b, r, rfl, hbytes, hb⟩ := h.exists_head
  rw [← sameAscii_digit.all_ofChars, hbytes, Token.isIntLiteral]
  simp

theorem Lexeme.isStringLiteral (h : Lexeme ('"' :: cs)) (hreturn : '\r' ∉ cs) :
    Token.isStringLiteral (Text.ofChars ('"' :: cs)) := by
  obtain ⟨body, hbody, rfl⟩ := h.of_quote
  have hbody' : '\r' ∉ body := fun hmem => hreturn (List.mem_append_left _ hmem)
  rw [Token.isStringLiteral, stringLiteral?_ofChars hbody hbody']
  rfl

end Lexicon

open Lexicon

/-- **Lexer, parser and evaluator agree on the kind of a token.**  A token is told by its first byte.
With a quote, and without a carriage return inside, it is a string literal, which has the same text
as a whole expression and as a call argument.  With a digit it is an integer literal, and one for
the parser if it has neither a letter for its radix nor underscores.  With a letter it is an
identifier.  All others are `==` or a single character. -/
theorem token_classes_agree {source : Text} {ts : List Token} (h : tokenize source = .ok ts)
    {t : Token} (ht : t ∈ ts) :
    ∃ b r, t = b :: r ∧
      (b = quoteByte → 0x0D ∉ t → t.isStringLiteral ∧ ∃ inner,
        (∀ rest, Syntax.expression (t :: rest) = .ok (.str inner, rest)) ∧
        (∀ (ρ : Type) mode n depth,
          (eval mode (n + 1) depth (.str inner) : Action ρ Value) = pure (.text inner)) ∧
        ∀ f : Frame, f.argument t = .text inner) ∧
      (isDigitByte b → ∃ l, t = Text.ofChars l ∧ IntegerLiteral l ∧
        (t.isIntLiteral ↔ '_' ∉ l ∧ ∀ radix : Radix, ∀ x ∈ radix.marks, ¬ ['0', x] <+: l)) ∧
      (isLetterByte b → t.isIdent) ∧
      (b ≠ quoteByte → isWordByte b = false → t = utf8 "==" ∨ ∃ c, t = Text.ofChar c) := by
  obtain ⟨l, hl, -, rfl⟩ := isToken_of_tokenize h ht
  obtain ⟨c, cs, b, r, rfl, hbytes, hb⟩ := hl.exists_head
  have hquote : b = quoteByte ↔ c = '"' := by
    have hsame := (sameAscii_code (a := quoteByte) (d := '"') rfl (by decide)).of_mem hb
    rw [← beq_iff_eq, hsame, beq_iff_eq]
  refine ⟨b, r, hbytes, fun hbq hreturn => ?_, fun hdigit => ?_, fun hletter => ?_,
    fun hbq hword => ?_⟩
  · obtain rfl := hquote.1 hbq
    have hreturn' : '\r' ∉ cs := fun hmem =>
      hreturn ((Text.mem_ofChars rfl (by decide)).2 (List.mem_cons_of_mem _ hmem))
    have hstring := hl.isStringLiteral hreturn'
    obtain ⟨inner, hinner⟩ := Option.isSome_iff_exists.1 hstring
    refine ⟨hstring, inner, fun rest => ?_, fun _ _ _ _ => rfl, fun f => ?_⟩
    · rw [Syntax.expression, hinner]
    · have henclosed := Token.enclosed?_eq_some.2 (Token.stringLiteral?_eq_some.1 hinner).1
      rw [Frame.argument, henclosed]
  · rw [sameAscii_digit.of_mem hb] at hdigit
    have hinteger := hl.of_digit hdigit
    exact ⟨c :: cs, rfl, hinteger, hl.isIntLiteral_iff.trans hinteger.all_isDigit_iff⟩
  · rw [sameAscii_letter.of_mem hb] at hletter
    exact hl.isIdent hletter
  · rw [sameAscii_word.of_mem hb, Lexer.isWordChar, Bool.or_eq_false_iff] at hword
    rcases hl.of_other hword.1 hword.2 fun hc => hbq (hquote.2 hc) with rfl | ⟨rfl, rfl⟩
    · exact .inr ⟨c, List.append_nil _⟩
    · exact .inl (by decide)

/-- A string literal that looks like a comment is one token, with one text in both uses. -/
theorem token_classes_agree_comment :
    let t := utf8 "\"//\""
    tokenize (utf8 "f(\"//\");") = .ok [utf8 "f", utf8 "(", t, utf8 ")", utf8 ";"] ∧
      ∃ inner, (∀ rest, Syntax.expression (t :: rest) = .ok (.str inner, rest)) ∧
        ∀ f : Frame, f.argument t = .text inner := by
  intro t
  have h : tokenize (utf8 "f(\"//\");") = .ok [utf8 "f", utf8 "(", t, utf8 ")", utf8 ";"] :=
    tokenize_of_toOption (by decide +kernel)
  obtain ⟨b, r, hbytes, hquote, -⟩ := token_classes_agree h (t := t) (by simp [t])
  have hb : b = quoteByte := by
    have hhead : t.head? = some quoteByte := by decide
    rw [hbytes] at hhead
    exact Option.some.inj hhead
  obtain ⟨-, inner, hexpression, -, hargument⟩ := hquote hb (by decide)
  exact ⟨h, inner, hexpression, hargument⟩

/-- The lexer knows literals that the parser does not: integers with a radix or an underscore, and
strings with a carriage return. -/
theorem token_classes_differ :
    tokenize (utf8 "0x1F 1_0 \"\r\"") = .ok [utf8 "0x1F", utf8 "1_0", utf8 "\"\r\""] ∧
      Token.isIntLiteral (utf8 "0x1F") = false ∧ Token.isIntLiteral (utf8 "1_0") = false ∧
      Token.isStringLiteral (utf8 "\"\r\"") = false :=
  ⟨tokenize_of_toOption (by decide +kernel), by decide, by decide, by decide⟩

end Scriptlet
