import Scriptlet.Proofs.Lexemes
import Scriptlet.Proofs.Utf8
import Scriptlet.Syntax.Parser

/-!
# Scriptlet.Proofs.SourceText — a source is its tokens with separators around them

The lexer passes over exactly the separators (`Separator.skip_append`, `skip_sound`) and takes
exactly the tokens that stand free, so a source splits into tokens if and only if it is spelled by
them (`tokenize_eq_ok_iff`).  From this come the two main results.

* `spelled_longest_of_tokenize`: splitting loses and invents nothing.
* `layout_unobservable`: the layout of a source does not matter, since splitting undoes rendering.
-/

namespace Scriptlet

namespace Lexicon

open Lexer

/-! ### Separators -/

section Separators

variable {c : Char} {cs body s rest tail after : List Char}

theorem bare_nil : Bare [] := ⟨by simp, by simp, by simp⟩

theorem skip_of_bare (h : Bare cs) : skip cs = .ok cs := by
  unfold skip
  split
  · next cs => exact absurd (List.prefix_append ['/', '/'] cs) h.line
  · next cs => exact absurd (List.prefix_append ['/', '*'] cs) h.block
  · next c cs _ _ => rw [if_neg (by simp [h.space c rfl])]
  · rfl

theorem skip_space (hc : isSpace c) : skip (c :: cs) = skip cs := by
  have hslash : c ≠ '/' := by
    rintro rfl
    exact absurd hc (by decide)
  conv => lhs; unfold skip
  split
  · next heq => exact absurd (List.cons.inj heq).1 hslash
  · next heq => exact absurd (List.cons.inj heq).1 hslash
  · next heq =>
    obtain ⟨rfl, rfl⟩ := List.cons.inj heq
    rw [if_pos hc]
  · next heq => cases heq

theorem skipLine_append (hbody : '\n' ∉ body) (htail : tail = [] ∨ tail.head? = some '\n') :
    skipLine (body ++ tail) = skip tail := by
  induction body with
  | nil =>
    rcases htail with rfl | htail
    · rfl
    · obtain ⟨cs, rfl⟩ := List.head?_eq_some_iff.1 htail
      rw [List.nil_append, skipLine, if_pos rfl, skip_space rfl]
  | cons c body ih =>
    rw [List.mem_cons, not_or] at hbody
    rw [List.cons_append, skipLine, if_neg (Ne.symm hbody.1), ih hbody.2]

theorem skipBlock_cons (h : ¬ ['*', '/'] <+: c :: cs) : skipBlock (c :: cs) = skipBlock cs := by
  conv => lhs; unfold skipBlock
  split
  · next heq => cases heq
  · next cs' heq => exact absurd (heq ▸ List.prefix_append ['*', '/'] cs') h
  · next heq => rw [(List.cons.inj heq).2]

theorem skipBlock_append (hbody : ¬ ['*', '/'] <:+: body) (tail : List Char) :
    skipBlock (body ++ '*' :: '/' :: tail) = skip tail := by
  induction body with
  | nil => rw [List.nil_append, skipBlock]
  | cons c body ih =>
    rw [List.infix_cons_iff, not_or] at hbody
    rw [List.cons_append, skipBlock_cons, ih hbody.2]
    -- the comment does not end with the last character of its body either: `*` comes next, not `/`
    intro hprefix
    rw [List.cons_prefix_cons] at hprefix
    cases body with
    | nil => exact absurd hprefix.2 (by simp)
    | cons d body =>
      rw [List.cons_append, List.cons_prefix_cons] at hprefix
      obtain ⟨rfl, rfl, -⟩ := hprefix
      exact hbody.1 (List.prefix_append ['*', '/'] body)

/-- The lexer passes over a separator. -/
theorem Separator.skip_append (h : Separator s after) (hafter : Bare after) :
    skip (s ++ after) = .ok after := by
  induction h with
  | nil => exact skip_of_bare hafter
  | space hc _ ih => rw [List.cons_append, skip_space hc, ih hafter]
  | line hbody hend _ ih =>
    rw [List.cons_append, List.cons_append, List.append_assoc, skip, skipLine_append hbody hend,
      ih hafter]
  | block hbody _ ih =>
    rw [List.cons_append, List.cons_append, List.append_assoc, skip]
    exact (skipBlock_append hbody _).trans (ih hafter)

mutual

/-- What the lexer passes over is a separator, and no other begins after it. -/
theorem skip_sound {cs : List Char} (h : skip cs = .ok rest) :
    ∃ s, cs = s ++ rest ∧ Separator s rest ∧ Bare rest := by
  unfold skip at h
  split at h
  · next cs =>
    obtain ⟨body, s, rfl, hbody, hend, hs, hrest⟩ := skipLine_sound h
    exact ⟨'/' :: '/' :: (body ++ s), by simp, .line hbody hend hs, hrest⟩
  · next cs =>
    obtain ⟨body, s, rfl, hbody, hs, hrest⟩ := skipBlock_sound h
    exact ⟨'/' :: '*' :: (body ++ '*' :: '/' :: s), by simp, .block hbody hs, hrest⟩
  · next c cs hline hblock =>
    split at h
    · next hc =>
      obtain ⟨s, rfl, hs, hrest⟩ := skip_sound h
      exact ⟨c :: s, rfl, .space hc hs, hrest⟩
    · next hc =>
      -- the first two cases of `skip` did not apply, so no comment begins here
      obtain rfl := Except.ok.inj h
      refine ⟨[], rfl, .nil, ?_, ?_, ?_⟩
      · rintro _ ⟨⟩
        simpa using hc
      · rintro ⟨r, heq⟩
        obtain ⟨rfl, rfl⟩ := List.cons.inj heq
        exact hline r rfl rfl
      · rintro ⟨r, heq⟩
        obtain ⟨rfl, rfl⟩ := List.cons.inj heq
        exact hblock r rfl rfl
  · obtain rfl := Except.ok.inj h
    exact ⟨[], rfl, .nil, bare_nil⟩

theorem skipLine_sound {cs : List Char} (h : skipLine cs = .ok rest) :
    ∃ body s, cs = body ++ (s ++ rest) ∧ '\n' ∉ body ∧
      (s ++ rest = [] ∨ (s ++ rest).head? = some '\n') ∧ Separator s rest ∧ Bare rest := by
  unfold skipLine at h
  split at h
  · obtain rfl := Except.ok.inj h
    exact ⟨[], [], rfl, by simp, .inl rfl, .nil, bare_nil⟩
  · next c cs =>
    split at h
    · next hc =>
      obtain ⟨s, rfl, hs, hrest⟩ := skip_sound h
      exact ⟨[], c :: s, rfl, by simp, .inr (by rw [hc]; rfl), .space (by rw [hc]; rfl) hs, hrest⟩
    · next hc =>
      obtain ⟨body, s, rfl, hbody, hend, hs, hrest⟩ := skipLine_sound h
      exact ⟨c :: body, s, rfl, by simp [hbody, Ne.symm hc], hend, hs, hrest⟩

theorem skipBlock_sound {cs : List Char} (h : skipBlock cs = .ok rest) :
    ∃ body s, cs = body ++ '*' :: '/' :: (s ++ rest) ∧ ¬ ['*', '/'] <:+: body ∧
      Separator s rest ∧ Bare rest := by
  unfold skipBlock at h
  split at h
  · cases h
  · next cs =>
    obtain ⟨s, rfl, hs, hrest⟩ := skip_sound h
    exact ⟨[], s, rfl, by simp, hs, hrest⟩
  · next c cs hclose =>
    obtain ⟨body, s, rfl, hbody, hs, hrest⟩ := skipBlock_sound h
    refine ⟨c :: body, s, rfl, ?_, hs, hrest⟩
    rw [List.infix_cons_iff]
    rintro (⟨r, heq⟩ | hbody')
    · obtain ⟨rfl, rfl⟩ := List.cons.inj heq
      exact hclose _ rfl rfl
    · exact hbody hbody'

end

end Separators

/-! ### Tokens -/

section Tokens

variable {cs : List Char} {ls : List (List Char)}

theorem tokens_of_skip_nil (h : skip cs = .ok []) : tokens cs = .ok [] := by
  rw [tokens]
  split
  · next h' => cases h.symm.trans h'
  · rfl
  · next h' => cases h.symm.trans h'

theorem tokens_of_lexeme {c : Char} {l rest rest' : List Char} (h : skip cs = .ok (c :: rest))
    (hl : lexeme c rest = .ok (l, rest')) (hls : tokens rest' = .ok ls) :
    tokens cs = .ok (l :: ls) := by
  rw [tokens]
  split
  · next h' => cases h.symm.trans h'
  · next h' => cases h.symm.trans h'
  · next h' =>
    obtain ⟨rfl, rfl⟩ := List.cons.inj (Except.ok.inj (h.symm.trans h'))
    split
    · next hl' => cases hl.symm.trans hl'
    · next hl' =>
      obtain ⟨rfl, rfl⟩ := Prod.mk.inj (Except.ok.inj (hl.symm.trans hl'))
      rw [hls]

theorem tokens_of_spelled (h : Spelled Stands ls cs) : tokens cs = .ok ls := by
  induction h with
  | nil hs =>
    have hskip := hs.skip_append bare_nil
    rw [List.append_nil] at hskip
    exact tokens_of_skip_nil hskip
  | @cons s l rest ls hs hl _ ih =>
    have hbare := hl.bare
    have hskip := hs.skip_append hbare
    cases l with
    | nil => exact absurd hl.lexeme not_lexeme_nil
    | cons c l => exact tokens_of_lexeme hskip ((lexeme_eq_ok_iff hbare).2 ⟨rfl, hl⟩) ih

theorem spelled_of_tokens (h : tokens cs = .ok ls) : Spelled Stands ls cs := by
  fun_induction tokens cs generalizing ls with
  | case1 => cases h
  | case2 cs hskip =>
    obtain rfl := Except.ok.inj h
    obtain ⟨s, rfl, hs, -⟩ := skip_sound hskip
    rw [List.append_nil]
    exact .nil hs
  | case3 => cases h
  | case4 => cases h
  | case5 cs c rest hskip l rest' hlexeme ls' hls ih =>
    obtain rfl := Except.ok.inj h
    obtain ⟨s, rfl, hs, hbare⟩ := skip_sound hskip
    obtain ⟨heq, hl⟩ := (lexeme_eq_ok_iff hbare).1 hlexeme
    rw [heq] at hs ⊢
    exact .cons hs hl (ih hls)

end Tokens

/-! ### Sources -/

section Sources

variable {cs : List Char} {ls : List (List Char)} {source : Text} {ts : List Token}

theorem readable_map_scalar (h : '\x00' ∉ cs) : readable (cs.map .scalar) = (cs, none) := by
  induction cs with
  | nil => rfl
  | cons c cs ih =>
    rw [List.mem_cons, not_or] at h
    have hc : ¬ c.toNat = 0 := fun hzero => h.1 (Char.toNat_inj.1 hzero).symm
    rw [List.map_cons, readable, if_neg hc, ih h.2]

theorem eq_map_scalar_of_readable {rs : List Rune} (h : readable rs = (cs, none)) :
    rs = cs.map .scalar ∧ '\x00' ∉ cs := by
  fun_induction readable rs generalizing cs with
  | case1 =>
    obtain ⟨rfl, -⟩ := Prod.mk.inj h
    exact ⟨rfl, List.not_mem_nil⟩
  | case2 => cases h
  | case3 => cases h
  | case4 c rs hc cs' defect hrs ih =>
    obtain ⟨rfl, rfl⟩ := Prod.mk.inj h
    obtain ⟨rfl, hnul⟩ := ih hrs
    refine ⟨rfl, ?_⟩
    rw [List.mem_cons, not_or]
    exact ⟨fun heq => hc (by rw [← heq]; rfl), hnul⟩

theorem tokenize_of_sourceTokens (hnul : '\x00' ∉ cs) (h : sourceTokens cs = .ok ls) :
    tokenize (Text.ofChars cs) = .ok (ls.map Text.ofChars) := by
  rw [tokenize, Rune.runes_ofChars, readable_map_scalar hnul]
  dsimp only
  rw [h]

theorem sourceTokens_of_tokenize (h : tokenize source = .ok ts) :
    ∃ cs ls, source = Text.ofChars cs ∧ '\x00' ∉ cs ∧ sourceTokens cs = .ok ls ∧
      ts = ls.map Text.ofChars := by
  unfold tokenize at h
  cases hr : readable source.runes with
  | mk cs defect =>
    rw [hr] at h
    dsimp only at h
    split at h
    · next ls hls =>
      obtain ⟨hrunes, hnul⟩ := eq_map_scalar_of_readable hr
      refine ⟨cs, ls, ?_, hnul, hls, (Except.ok.inj h).symm⟩
      rw [← Rune.ofRunes_runes source, hrunes]
      simp [Text.ofRunes, Text.ofChars, List.flatMap_map, Rune.encode]
    · cases h
    · cases h
    · cases h

/-- The byte order mark. -/
def byteOrderMark : Char := '\uFEFF'

theorem sourceTokens_mark : sourceTokens (byteOrderMark :: cs) = tokens cs := by
  rw [sourceTokens, if_pos (by decide)]

theorem sourceTokens_of_head (h : cs.head? ≠ some byteOrderMark) : sourceTokens cs = tokens cs := by
  cases cs with
  | nil => exact (tokens_of_skip_nil rfl).symm
  | cons c cs => exact if_neg fun hc => h (congrArg some (Char.toNat_inj.1 hc))

/-- **The sources that split into tokens.** -/
theorem tokenize_eq_ok_iff :
    tokenize source = .ok ts ↔
      ∃ mark cs ls, source = Text.ofChars (mark ++ cs) ∧
        (mark = [byteOrderMark] ∨ mark = [] ∧ cs.head? ≠ some byteOrderMark) ∧ '\x00' ∉ cs ∧
        Spelled Stands ls cs ∧ ts = ls.map Text.ofChars := by
  constructor
  · intro h
    obtain ⟨cs, ls, rfl, hnul, hls, rfl⟩ := sourceTokens_of_tokenize h
    -- only the first of several marks is dropped
    by_cases hhead : cs.head? = some byteOrderMark
    · obtain ⟨cs, rfl⟩ := List.head?_eq_some_iff.1 hhead
      rw [sourceTokens_mark] at hls
      exact ⟨[byteOrderMark], cs, ls, rfl, .inl rfl, fun hmem => hnul (List.mem_cons_of_mem _ hmem),
        spelled_of_tokens hls, rfl⟩
    · rw [sourceTokens_of_head hhead] at hls
      exact ⟨[], cs, ls, rfl, .inr ⟨rfl, hhead⟩, hnul, spelled_of_tokens hls, rfl⟩
  · rintro ⟨mark, cs, ls, rfl, (rfl | ⟨rfl, hhead⟩), hnul, hls, rfl⟩
    · refine tokenize_of_sourceTokens ?_ (sourceTokens_mark.trans (tokens_of_spelled hls))
      rw [List.singleton_append, List.mem_cons, not_or]
      exact ⟨by decide, hnul⟩
    · exact tokenize_of_sourceTokens hnul ((sourceTokens_of_head hhead).trans (tokens_of_spelled hls))

/-- Whether a fixed source splits into given tokens can be decided. -/
theorem tokenize_of_toOption (h : (tokenize source).toOption = some ts) :
    tokenize source = .ok ts := by
  cases hresult : tokenize source with
  | error fault =>
    rw [hresult] at h
    cases h
  | ok ts' =>
    rw [hresult] at h
    exact congrArg Except.ok (Option.some.inj h)

/-! ### Rendering -/

/-- The characters of a token are among those of the source. -/
theorem Spelled.of_mem {P : List Char → List Char → Prop} {l : List Char} (h : Spelled P ls cs)
    (hl : l ∈ ls) : (∃ rest, P l rest) ∧ l ⊆ cs := by
  induction h with
  | nil _ => cases hl
  | @cons s l' rest ls _ hl' _ ih =>
    rcases List.mem_cons.1 hl with rfl | hl
    · exact ⟨⟨rest, hl'⟩, fun c hc => by simp [hc]⟩
    · obtain ⟨hP, hsub⟩ := ih hl
      exact ⟨hP, fun c hc => by simp [hsub hc]⟩

/-- The text `t` is a token. -/
def IsToken (t : Token) : Prop := ∃ l, Lexeme l ∧ '\x00' ∉ l ∧ t = Text.ofChars l

/-- The text `s` is layout. -/
def IsLayout (s : Text) : Prop := ∃ cs, Layout cs ∧ '\x00' ∉ cs ∧ s = Text.ofChars cs

/-- A source: a text at its front, and then tokens, each with a text behind it. -/
def render (front : Text) (items : List (Token × Text)) : Text :=
  front ++ items.flatMap fun item => item.1 ++ item.2

theorem isToken_of_tokenize {t : Token} (h : tokenize source = .ok ts) (ht : t ∈ ts) :
    IsToken t := by
  obtain ⟨_, cs, ls, -, -, hnul, hls, rfl⟩ := tokenize_eq_ok_iff.1 h
  obtain ⟨l, hl, rfl⟩ := List.mem_map.1 ht
  obtain ⟨⟨_, hstands⟩, hsub⟩ := hls.of_mem hl
  exact ⟨l, hstands.lexeme, fun hmem => hnul (hsub hmem), rfl⟩

/-- A token stands free before layout. -/
theorem Layout.stands {l s rest : List Char} (hs : Layout s) (hl : Lexeme l) :
    Stands l (s ++ rest) := by
  refine ⟨hl, ?_⟩
  cases hs with
  | mk hc _ =>
    rintro _ ⟨⟩
    exact clings_space hc

theorem Layout.head_ne {s rest : List Char} (hs : Layout s) :
    (s ++ rest).head? ≠ some byteOrderMark := by
  cases hs with
  | mk hc _ =>
    intro h
    rw [Option.some.inj h] at hc
    exact absurd hc (by decide)

theorem render_cons (front s : Text) (t : Token) (items : List (Token × Text)) :
    render front ((t, s) :: items) = front ++ (t ++ render s items) := by
  simp [render]

theorem spelled_render {front : Text} {items : List (Token × Text)} (hfront : IsLayout front)
    (hitems : ∀ item ∈ items, IsToken item.1 ∧ IsLayout item.2) :
    ∃ s cs ls, render front items = Text.ofChars (s ++ cs) ∧ Layout s ∧ '\x00' ∉ s ++ cs ∧
      Spelled Stands ls (s ++ cs) ∧ items.map (·.1) = ls.map Text.ofChars := by
  induction items generalizing front with
  | nil =>
    obtain ⟨s, hs, hnul, rfl⟩ := hfront
    refine ⟨s, [], [], ?_, hs, ?_, ?_, rfl⟩
    · rw [render, List.flatMap_nil, List.append_nil, List.append_nil]
    · rwa [List.append_nil]
    · rw [List.append_nil]
      exact .nil (hs.separator [])
  | cons item items ih =>
    obtain ⟨t, s'⟩ := item
    obtain ⟨hitem, hrest⟩ := List.forall_mem_cons.1 hitems
    obtain ⟨s, hs, hnul, rfl⟩ := hfront
    obtain ⟨l, hl, hnul', rfl⟩ := hitem.1
    obtain ⟨r, cs, ls, hrender, hr, hnul'', hls, hmap⟩ := ih hitem.2 hrest
    refine ⟨s, l ++ (r ++ cs), l :: ls, ?_, hs, ?_, .cons (hs.separator _) (hr.stands hl) hls, ?_⟩
    · rw [render_cons, hrender, Text.ofChars_append s, Text.ofChars_append l]
    · rw [List.mem_append, List.mem_append, not_or, not_or]
      exact ⟨hnul, hnul', hnul''⟩
    · rw [List.map_cons, List.map_cons, hmap]

theorem tokenize_render {front : Text} {items : List (Token × Text)} (hfront : IsLayout front)
    (hitems : ∀ item ∈ items, IsToken item.1 ∧ IsLayout item.2) :
    tokenize (render front items) = .ok (items.map (·.1)) := by
  obtain ⟨s, cs, ls, hrender, hs, hnul, hls, hmap⟩ := spelled_render hfront hitems
  exact tokenize_eq_ok_iff.2 ⟨[], s ++ cs, ls, hrender, .inr ⟨rfl, hs.head_ne⟩, hnul, hls, hmap⟩

end Sources

end Lexicon

open Lexicon

/-- **Splitting loses and invents nothing.**  A source that splits into tokens is well-formed UTF-8
without NUL.  Apart from a byte order mark at its start, which is dropped, it consists of the tokens
in order and of white space and comments around them, and each token is the longest one at its
place. -/
theorem spelled_longest_of_tokenize {source : Text} {ts : List Token}
    (h : tokenize source = .ok ts) :
    ∃ mark cs ls, source = Text.ofChars (mark ++ cs) ∧
      (mark = [byteOrderMark] ∨ mark = [] ∧ cs.head? ≠ some byteOrderMark) ∧ '\x00' ∉ cs ∧
      Spelled Longest ls cs ∧ ts = ls.map Text.ofChars := by
  obtain ⟨mark, cs, ls, hsource, hmark, hnul, hls, hts⟩ := tokenize_eq_ok_iff.1 h
  exact ⟨mark, cs, ls, hsource, hmark, hnul, hls.mono fun _ _ hl => hl.longest, hts⟩

/-- Slashes, equality signs and comments next to each other, behind a byte order mark. -/
theorem spelled_longest_of_tokenize_tight :
    let source := utf8 "\uFEFF/a/ //\n0x_1F==\"\\\"/*\"=/***/\n= //"
    let ts := [utf8 "/", utf8 "a", utf8 "/", utf8 "0x_1F", utf8 "==", utf8 "\"\\\"/*\"", utf8 "=",
      utf8 "="]
    tokenize source = .ok ts ∧ ∃ mark cs ls, source = Text.ofChars (mark ++ cs) ∧
      (mark = [byteOrderMark] ∨ mark = [] ∧ cs.head? ≠ some byteOrderMark) ∧ '\x00' ∉ cs ∧
      Spelled Longest ls cs ∧ ts = ls.map Text.ofChars := by
  intro source ts
  have h : tokenize source = .ok ts := tokenize_of_toOption (by decide +kernel)
  exact ⟨h, spelled_longest_of_tokenize h⟩

/-- **Layout does not matter: splitting undoes rendering.**  Tokens rendered with any layout before,
between and after them split into these tokens.  So the tokens of a source can be rendered anew, and
the new source has the same tokens and the same program, or the same syntax error. -/
theorem layout_unobservable {front : Text} (hfront : IsLayout front) :
    (∀ items : List (Token × Text), (∀ item ∈ items, IsToken item.1 ∧ IsLayout item.2) →
      tokenize (render front items) = .ok (items.map (·.1))) ∧
    ∀ source ts items, tokenize source = .ok ts → items.map (·.1) = ts →
      (∀ item ∈ items, IsLayout item.2) →
        tokenize (render front items) = .ok ts ∧
          (tokenize (render front items)).map parse = (tokenize source).map parse := by
  refine ⟨fun items hitems => tokenize_render hfront hitems, ?_⟩
  rintro source _ items hsource rfl hitems
  have hrender : tokenize (render front items) = .ok (items.map (·.1)) := by
    refine tokenize_render hfront fun item hitem => ⟨?_, hitems item hitem⟩
    exact isToken_of_tokenize hsource (List.mem_map_of_mem hitem)
  exact ⟨hrender, by rw [hrender, hsource]⟩

/-- A second byte order mark is a token, and stays one when it is rendered. -/
theorem layout_unobservable_mark :
    let items := [(utf8 "\uFEFF", utf8 " // =\n"), (utf8 "/", utf8 "\t/***/")]
    let rendered := render (utf8 "\n") items
    let source := utf8 "\uFEFF\uFEFF/"
    tokenize rendered = .ok [utf8 "\uFEFF", utf8 "/"] ∧
      (tokenize rendered).map parse = (tokenize source).map parse := by
  intro items rendered source
  have hfront : IsLayout (utf8 "\n") := ⟨['\n'], .mk rfl .nil, by decide, by decide⟩
  have hline : Layout [' ', '/', '/', ' ', '=', '\n'] :=
    .mk rfl (@Filling.line [' ', '='] [] (by decide) .nil)
  have hblock : Layout ['\t', '/', '*', '*', '*', '/'] :=
    .mk rfl (@Filling.block ['*'] [] (by simp [List.infix_cons_iff]) .nil)
  have hmark : IsToken (utf8 "\uFEFF") := ⟨['\uFEFF'], .symbol (by decide), by decide, by decide⟩
  have hslash : IsToken (utf8 "/") := ⟨['/'], .symbol (by decide), by decide, by decide⟩
  have hsource : tokenize source = .ok [utf8 "\uFEFF", utf8 "/"] :=
    tokenize_of_toOption (by decide +kernel)
  have h := layout_unobservable hfront
  have hitems : ∀ item ∈ items, IsToken item.1 ∧ IsLayout item.2 := by
    refine List.forall_mem_cons.2 ⟨⟨hmark, _, hline, by decide, by decide⟩, ?_⟩
    exact List.forall_mem_singleton.2 ⟨hslash, _, hblock, by decide, by decide⟩
  have hlayout : ∀ item ∈ items, IsLayout item.2 := fun item hitem => (hitems item hitem).2
  exact ⟨h.1 items hitems, (h.2 source _ items hsource rfl hlayout).2⟩

end Scriptlet
