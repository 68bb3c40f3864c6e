import Scriptlet.Host.Bridge
import Scriptlet.Proofs.Alphabet
import Scriptlet.Proofs.ParserExact
import Scriptlet.Proofs.TokenAgreement

/-!
# Scriptlet.Proofs.Encoding — texts that are well-formed UTF-8

A text is a list of bytes, which need not be well-formed UTF-8.  Here are the ways in which texts
that are (`Text.IsUtf8`) are made from others: by joining, by stripping quotes, by quoting anything
at all.  So the complaints about a source are well-formed whatever the source holds, and a program
whose tokens are well-formed holds nothing else (`Program.isUtf8_of_spelledBy`).
-/

namespace Scriptlet

namespace Text

/-- The bytes are those of some characters. -/
def IsUtf8 (t : Text) : Prop := ∃ cs, t = ofChars cs

theorem isUtf8_ofChars (cs : List Char) : (ofChars cs).IsUtf8 := ⟨cs, rfl⟩

theorem isUtf8_nil : IsUtf8 [] := ⟨[], rfl⟩

theorem isUtf8_utf8 (s : String) : (utf8 s).IsUtf8 := ⟨s.toList, utf8_eq_ofChars s⟩

theorem IsUtf8.append {t u : Text} (ht : t.IsUtf8) (hu : u.IsUtf8) : IsUtf8 (t ++ u) := by
  obtain ⟨cs, rfl⟩ := ht
  obtain ⟨ds, rfl⟩ := hu
  exact ⟨cs ++ ds, (ofChars_append cs ds).symm⟩

theorem IsUtf8.runes_append {t u : Text} (ht : t.IsUtf8) (hu : u.IsUtf8) :
    (t ++ u).runes = t.runes ++ u.runes := by
  obtain ⟨cs, rfl⟩ := ht
  obtain ⟨ds, rfl⟩ := hu
  rw [← ofChars_append, Rune.runes_ofChars, Rune.runes_ofChars, Rune.runes_ofChars,
    List.map_append]

theorem isUtf8_quote (t : Text) : t.quote.IsUtf8 :=
  ((isUtf8_utf8 _).append (isUtf8_ofChars _)).append (isUtf8_utf8 _)

/-! ### Stripping quotes -/

/-- The byte of a quote stands in no character but the quote. -/
theorem ofChar_of_mem_quote {c : Char} (h : quoteByte ∈ ofChar c) : ofChar c = [quoteByte] := by
  have hbyte : quoteByte.toNat = 0x22 := rfl
  rcases of_mem_ofChar h with hcode | ⟨hlow, -⟩
  · have hc : c = '"' := by rw [← Char.ofNat_toNat c, ← hcode, hbyte]
    rw [hc]
    rfl
  · omega

theorem IsUtf8.of_quote_cons {t : Text} (h : IsUtf8 (quoteByte :: t)) : t.IsUtf8 := by
  obtain ⟨cs, hcs⟩ := h
  cases cs with
  | nil => cases hcs
  | cons c cs =>
    obtain ⟨b, bs, hb⟩ := List.exists_cons_of_ne_nil (ofChar_ne_nil c)
    have hcons : quoteByte :: t = ofChar c ++ ofChars cs := hcs
    have hmem : quoteByte ∈ ofChar c := by
      rw [hb] at hcons ⊢
      exact (List.cons.inj hcons).1 ▸ List.mem_cons_self
    rw [ofChar_of_mem_quote hmem] at hcons
    exact ⟨cs, (List.cons.inj hcons).2⟩

theorem IsUtf8.of_append_quote {t : Text} (h : IsUtf8 (t ++ [quoteByte])) : t.IsUtf8 := by
  obtain ⟨cs, hcs⟩ := h
  rcases List.eq_nil_or_concat cs with rfl | ⟨cs, c, rfl⟩
  · exact absurd hcs (List.append_ne_nil_of_right_ne_nil t (List.cons_ne_nil _ _))
  · have happend : t ++ [quoteByte] = ofChars cs ++ ofChar c := by
      rw [hcs, List.concat_eq_append, ofChars_append]
      simp [ofChars]
    have hmem : quoteByte ∈ ofChar c := by
      obtain ⟨bs, b, hb⟩ := (List.eq_nil_or_concat (ofChar c)).resolve_left (ofChar_ne_nil c)
      rw [hb, List.concat_eq_append] at happend ⊢
      rw [← List.append_assoc] at happend
      have hlast : [quoteByte] = [b] := List.append_inj_right' happend rfl
      exact hlast ▸ List.mem_append_right bs List.mem_cons_self
    rw [ofChar_of_mem_quote hmem] at happend
    exact ⟨cs, List.append_cancel_right happend⟩

theorem IsUtf8.enclosed {t inner : Text} (h : t.IsUtf8) (ht : Token.enclosed? t = some inner) :
    inner.IsUtf8 := by
  rw [Token.enclosed?_eq_some.1 ht] at h
  exact h.of_quote_cons.of_append_quote

end Text

/-- The texts that are well-formed. -/
def Alphabet.encoded : Alphabet where
  text := Text.IsUtf8
  ofChars := Text.isUtf8_ofChars
  append := Text.IsUtf8.append
  enclosed := Text.IsUtf8.enclosed

/-! ### Complaints -/

open Text

theorem LexicalFault.isUtf8_message (f : LexicalFault) : f.message.IsUtf8 :=
  (((((isUtf8_utf8 _).append (isUtf8_ofChars _)).append (isUtf8_utf8 _)).append
    (isUtf8_ofChars _)).append (isUtf8_utf8 _)).append (isUtf8_utf8 _)

theorem Expectation.isUtf8_describe (e : Expectation) : e.describe.IsUtf8 := by
  cases e with
  | symbol t => exact isUtf8_quote t
  | _ => exact isUtf8_utf8 _

/-- Tokens are quoted, so that a complaint is well-formed whatever the tokens are. -/
theorem SyntaxError.isUtf8_message (e : SyntaxError) : e.message.IsUtf8 := by
  refine (((((isUtf8_utf8 _).append (isUtf8_ofChars _)).append (isUtf8_utf8 _)).append
    e.expected.isUtf8_describe).append (isUtf8_utf8 _)).append ?_
  split
  · exact isUtf8_utf8 _
  · exact isUtf8_quote _

/-! ### Programs -/

theorem mem_parenTokens {l : List Token} {t : Token} (h : t ∈ l) : t ∈ parenTokens l := by
  have hmem : t ∈ l.intersperse (utf8 ",") := by
    induction l with
    | nil => cases h
    | cons a l ih =>
      cases l with
      | nil => exact h
      | cons b l =>
        rw [List.intersperse_cons_cons]
        rcases List.mem_cons.1 h with rfl | h
        · exact List.mem_cons_self
        · exact List.mem_cons_of_mem _ (List.mem_cons_of_mem _ (ih h))
  exact List.mem_cons_of_mem _ (List.mem_append_left _ hmem)

theorem Expr.isUtf8_of_spelledBy {e : Expr} {ts : List Token} (h : e.SpelledBy ts)
    (hts : ∀ t ∈ ts, t.IsUtf8) : ∀ t ∈ e.texts, t.IsUtf8 := by
  cases h with
  | int ht => nofun
  | @str t =>
    have htoken : IsUtf8 (quoteByte :: t ++ [quoteByte]) := hts _ List.mem_cons_self
    rintro _ ht
    rw [List.mem_singleton.1 ht]
    exact htoken.of_quote_cons.of_append_quote
  | binary => nofun
  | call =>
    intro t ht
    rcases List.mem_cons.1 ht with rfl | ht
    · exact hts _ List.mem_cons_self
    · exact hts t (List.mem_cons_of_mem _ (mem_parenTokens ht))

mutual

theorem Stmt.isUtf8_of_spelledBy {s : Stmt} {ts : List Token} (h : s.SpelledBy ts)
    (hts : ∀ t ∈ ts, t.IsUtf8) : ∀ t ∈ s.texts, t.IsUtf8 := by
  cases h with
  | declare hv => exact Expr.isUtf8_of_spelledBy hv fun t ht => hts t (by simp [ht])
  | assign hv => exact Expr.isUtf8_of_spelledBy hv fun t ht => hts t (by simp [ht])
  | print =>
    rintro t ht
    exact hts t (List.mem_cons_of_mem _ (List.mem_singleton.1 ht ▸ List.mem_cons_self))
  | read =>
    rintro t ht
    exact hts t (List.mem_cons_of_mem _ (List.mem_singleton.1 ht ▸ List.mem_cons_self))
  | ite hb => exact Program.isUtf8_of_spelledBy hb fun t ht => hts t (by simp [braceTokens, ht])
  | iteElse hb ha =>
    intro t ht
    rcases List.mem_append.1 ht with ht | ht
    · exact Program.isUtf8_of_spelledBy hb (fun u hu => hts u (by simp [braceTokens, hu])) t ht
    · exact Program.isUtf8_of_spelledBy ha (fun u hu => hts u (by simp [braceTokens, hu])) t ht
  | «while» hb =>
    exact Program.isUtf8_of_spelledBy hb fun t ht => hts t (by simp [braceTokens, ht])
  | «for» hi _ hj hb =>
    intro t ht
    rcases List.mem_append.1 ht with ht | ht
    · rcases List.mem_append.1 ht with ht | ht
      · exact Stmt.isUtf8_of_spelledBy hi (fun u hu => hts u (by simp [hu])) t ht
      · exact Stmt.isUtf8_of_spelledBy hj (fun u hu => hts u (by simp [hu])) t ht
    · exact Program.isUtf8_of_spelledBy hb (fun u hu => hts u (by simp [braceTokens, hu])) t ht
  | «fun» hb => exact Program.isUtf8_of_spelledBy hb fun t ht => hts t (by simp [braceTokens, ht])
  | call =>
    intro t ht
    rcases List.mem_cons.1 ht with rfl | ht
    · exact hts _ List.mem_cons_self
    · exact hts t (List.mem_cons_of_mem _ (List.mem_append_left _ (mem_parenTokens ht)))
  | «return» hv => exact Expr.isUtf8_of_spelledBy hv fun t ht => hts t (by simp [ht])

theorem Program.isUtf8_of_spelledBy {p : Program} {ts : List Token} (h : p.SpelledBy ts)
    (hts : ∀ t ∈ ts, t.IsUtf8) : ∀ t ∈ p.texts, t.IsUtf8 := by
  cases h with
  | nil => nofun
  | cons hs _ hss =>
    intro t ht
    rcases List.mem_append.1 ht with ht | ht
    · exact Stmt.isUtf8_of_spelledBy hs (fun u hu => hts u (List.mem_append_left _ hu)) t ht
    · exact Program.isUtf8_of_spelledBy hss (fun u hu => hts u (List.mem_append_right _ hu)) t ht

end

/-- A source that has a program is well-formed where it matters. -/
theorem Program.isUtf8_of_source {source : Text} {tokens : List Token} {p : Program}
    (hl : tokenize source = .ok tokens) (hp : parse tokens = .ok p) :
    ∀ t ∈ p.texts, t.IsUtf8 := by
  have hspelled := (Syntax.programReader_sound (parse_eq_ok.1 hp)).2
  refine Program.isUtf8_of_spelledBy hspelled fun t ht => ?_
  obtain ⟨l, -, -, rfl⟩ := Lexicon.isToken_of_tokenize hl ht
  exact isUtf8_ofChars l

end Scriptlet
