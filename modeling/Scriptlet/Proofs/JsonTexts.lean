import Scriptlet.Host.Bridge
import Scriptlet.Proofs.Utf8

/-!
# Scriptlet.Proofs.JsonTexts — a JSON array of texts denotes these texts

Every character is written inside a JSON string in a way that is read back as this character
(`stringParts?_escape`).  Strings and arrays follow by induction, and the answers of a run survive
the way through JSON (`inputs_array`).
-/

namespace Scriptlet

namespace Json

/-! ### Strings -/

theorem digit?_digitChar {d : Nat} (h : d < 16) : digit? (.scalar (Nat.digitChar d)) = some d := by
  have hall : ∀ d : Fin 16, digit? (.scalar (Nat.digitChar d)) = some d.val := by decide
  exact hall ⟨d, h⟩

/-- Put a part in front of those that were read. -/
def prepend (u : Unit16) (x : List Unit16 × List Rune) : List Unit16 × List Rune := (u :: x.1, x.2)

theorem stringParts?_quote (rest : List Rune) :
    stringParts? (.scalar '"' :: rest) = some ([], rest) := by
  rw [stringParts?.eq_def]
  exact if_pos rfl

/-- A character that needs no escape. -/
theorem stringParts?_plain {c : Char} (hq : c ≠ '"') (hb : c ≠ '\\') (hn : 0x20 ≤ c.toNat)
    (rs : List Rune) :
    stringParts? (.scalar c :: rs) = (stringParts? rs).map (prepend (.char c)) := by
  rw [stringParts?.eq_def (_ :: rs)]
  dsimp only
  rw [if_neg hq, if_neg (by omega), if_neg hb]
  cases stringParts? rs <;> rfl

theorem stringParts?_short {e c : Char} (he : e ≠ 'u') (h : shortEscape? e = some c)
    (rs : List Rune) :
    stringParts? (.scalar '\\' :: .scalar e :: rs) = (stringParts? rs).map (prepend (.char c)) := by
  rw [stringParts?, if_neg (by decide), if_neg (by decide), if_pos rfl, h]
  · cases stringParts? rs <;> rfl
  · exact fun _ _ _ _ _ _ => he

/-- A numeric escape is read as the number it was made of. -/
theorem stringParts?_numeric {n : Nat} (h : n < 0x10000) (rs : List Rune) :
    stringParts? (('\\' :: 'u' :: hexDigits 4 n).map .scalar ++ rs) =
      (stringParts? rs).map (prepend (.code n)) := by
  have hcode : ((n / 16 / 16 / 16 % 16 * 16 + n / 16 / 16 % 16) * 16 + n / 16 % 16) * 16 + n % 16 =
      n := by omega
  have hdigit : ∀ m, digit? (.scalar (Nat.digitChar (m % 16))) = some (m % 16) := fun m =>
    digit?_digitChar (Nat.mod_lt m (by decide))
  show stringParts? (.scalar '\\' :: .scalar 'u' ::
    .scalar (Nat.digitChar (n / 16 / 16 / 16 % 16)) ::
    .scalar (Nat.digitChar (n / 16 / 16 % 16)) :: .scalar (Nat.digitChar (n / 16 % 16)) ::
    .scalar (Nat.digitChar (n % 16)) :: rs) = _
  rw [stringParts?, if_neg (by decide), if_neg (by decide), if_pos rfl, hdigit, hdigit, hdigit,
    hdigit]
  simp only [Option.bind_eq_bind, Option.bind_some, hcode]
  cases stringParts? rs <;> rfl

theorem characters_code {c : Char} (h : c.toNat < 0xD800) (us : List Unit16) :
    characters none (.code c.toNat :: us) = c :: characters none us := by
  have hhigh : isHighHalf c.toNat = false := by
    rw [isHighHalf, decide_eq_false (by omega), Bool.false_and]
  have hlow : isLowHalf c.toNat = false := by
    rw [isLowHalf, decide_eq_false (by omega), Bool.false_and]
  rw [characters, hhigh, hlow, Char.ofNat_toNat]
  rfl

/-- The three ways in which a character is written. -/
theorem escape_cases (c : Char) :
    (∃ e, e ≠ 'u' ∧ escape c = ['\\', e] ∧ shortEscape? e = some c) ∨
      (escape c = '\\' :: 'u' :: hexDigits 4 c.toNat ∧ c.toNat < 0xD800) ∨
      (escape c = [c] ∧ c ≠ '"' ∧ c ≠ '\\' ∧ 0x20 ≤ c.toNat) := by
  have hshort : ∀ {n : Nat} (e : Char), c.toNat = n → e ≠ 'u' →
      shortEscape? e = some (Char.ofNat n) →
      ∃ e', e' ≠ 'u' ∧ ['\\', e] = ['\\', e'] ∧ shortEscape? e' = some c := by
    intro n e hn he h
    rw [← hn, Char.ofNat_toNat] at h
    exact ⟨e, he, rfl, h⟩
  unfold escape
  dsimp only
  split
  · next h => exact .inl (hshort '"' (by rw [h]) (by decide) (by decide))
  split
  · next h => exact .inl (hshort '\\' (by rw [h]) (by decide) (by decide))
  split
  · next h => exact .inl (hshort 'b' h (by decide) (by decide))
  split
  · next h => exact .inl (hshort 't' h (by decide) (by decide))
  split
  · next h => exact .inl (hshort 'n' h (by decide) (by decide))
  split
  · next h => exact .inl (hshort 'f' h (by decide) (by decide))
  split
  · next h => exact .inl (hshort 'r' h (by decide) (by decide))
  split
  · next h =>
    refine .inr (.inl ⟨rfl, ?_⟩)
    rcases h with h | h | h | h
    · omega
    · have hall : ∀ d ∈ ['<', '>', '&'], d.toNat < 0xD800 := by simp
      exact hall c h
    · omega
    · omega
  · next hq hb _ _ _ _ _ h => exact .inr (.inr ⟨rfl, hq, hb, by omega⟩)

/-- **A written character is read back**, as itself or as its number. -/
theorem stringParts?_escape (c : Char) : ∃ u,
    (∀ rs, stringParts? ((escape c).map .scalar ++ rs) = (stringParts? rs).map (prepend u)) ∧
      ∀ us, characters none (u :: us) = c :: characters none us := by
  rcases escape_cases c with ⟨e, he, hc, h⟩ | ⟨hc, hn⟩ | ⟨hc, hq, hb, hn⟩
  · rw [hc]
    exact ⟨.char c, fun rs => stringParts?_short he h rs, fun us => rfl⟩
  · rw [hc]
    exact ⟨.code c.toNat, stringParts?_numeric (by omega), characters_code hn⟩
  · rw [hc]
    exact ⟨.char c, fun rs => stringParts?_plain hq hb hn rs, fun us => rfl⟩

theorem stringParts?_escapes (cs : List Char) (rest : List Rune) : ∃ us,
    stringParts? ((cs.flatMap escape).map .scalar ++ .scalar '"' :: rest) = some (us, rest) ∧
      characters none us = cs := by
  induction cs with
  | nil => exact ⟨[], stringParts?_quote rest, rfl⟩
  | cons c cs ih =>
    obtain ⟨us, hus, hcs⟩ := ih
    obtain ⟨u, hu, hc⟩ := stringParts?_escape c
    refine ⟨u :: us, ?_, by rw [hc, hcs]⟩
    rw [List.flatMap_cons, List.map_append, List.append_assoc, hu, hus]
    rfl

/-! ### Arrays -/

/-- The characters of the JSON string for a text. -/
def quoted (cs : List Char) : List Char := '"' :: (cs.flatMap escape ++ ['"'])

/-- The characters of JSON strings with commas between them. -/
def listed : List (List Char) → List Char
  | [] => []
  | [cs] => quoted cs
  | cs :: ds :: css => quoted cs ++ ',' :: listed (ds :: css)

theorem item?_quoted (cs : List Char) (rest : List Rune) :
    item? ((quoted cs).map .scalar ++ rest) = some (Text.ofChars cs, rest) := by
  obtain ⟨us, hus, hcs⟩ := stringParts?_escapes cs rest
  have hrunes : (quoted cs).map Rune.scalar ++ rest =
      .scalar '"' :: ((cs.flatMap escape).map .scalar ++ .scalar '"' :: rest) := by
    simp [quoted]
  rw [hrunes, item?, hus]
  simp [hcs]

theorem skipSpace_quoted (cs : List Char) (rest : List Rune) :
    skipSpace ((quoted cs).map .scalar ++ rest) = (quoted cs).map .scalar ++ rest := rfl

theorem items?_listed {n : Nat} (cs : List Char) (css : List (List Char)) (hn : css.length < n)
    (rest : List Rune) :
    items? n ((listed (cs :: css)).map .scalar ++ .scalar ']' :: rest) =
      some ((cs :: css).map Text.ofChars, rest) := by
  induction css generalizing n cs with
  | nil =>
    obtain ⟨n, rfl⟩ := Nat.exists_eq_add_of_lt hn
    rw [listed, items?, skipSpace_quoted, item?_quoted]
    rfl
  | cons ds css ih =>
    cases n with
    | zero => exact absurd hn (Nat.not_lt_zero _)
    | succ n =>
      have hrunes : (listed (cs :: ds :: css)).map Rune.scalar ++ .scalar ']' :: rest =
          (quoted cs).map .scalar ++
            .scalar ',' :: ((listed (ds :: css)).map .scalar ++ .scalar ']' :: rest) := by
        simp [listed]
      rw [hrunes, items?, skipSpace_quoted, item?_quoted]
      have ih' := ih ds (Nat.lt_of_succ_lt_succ hn)
      show (items? n _ >>= _) = _
      rw [ih']
      rfl

theorem length_listed (css : List (List Char)) : css.length ≤ (listed css).length := by
  fun_induction listed css with
  | case1 => exact Nat.le_refl _
  | case2 cs => simp [quoted]
  | case3 cs ds css ih => simp only [List.length_cons, List.length_append] at ih ⊢; omega

/-- The characters of the JSON array of texts. -/
def arrayed (css : List (List Char)) : List Char := '[' :: (listed css ++ [']'])

theorem list?_arrayed (css : List (List Char)) :
    list? ((arrayed css).map .scalar) = some (css.map Text.ofChars, []) := by
  cases css with
  | nil => rfl
  | cons cs css =>
    have hlen :
        css.length < ((listed (cs :: css)).map Rune.scalar ++ [Rune.scalar ']']).length := by
      have := length_listed (cs :: css)
      simp only [List.length_append, List.length_map, List.length_cons] at this ⊢
      omega
    have hitems := items?_listed cs css hlen []
    have hhead :
        ∃ rs, (listed (cs :: css)).map Rune.scalar ++ [.scalar ']'] = .scalar '"' :: rs := by
      cases css <;> exact ⟨_, rfl⟩
    obtain ⟨rs, hrs⟩ := hhead
    have hrunes : (arrayed (cs :: css)).map Rune.scalar = .scalar '[' :: .scalar '"' :: rs := by
      rw [← hrs, arrayed, List.map_cons, List.map_append]
      rfl
    rw [hrs] at hitems
    rw [hrunes]
    exact hitems

theorem texts?_arrayed (css : List (List Char)) :
    texts? (Text.ofChars (arrayed css)) = some (css.map Text.ofChars) := by
  have hspace : skipSpace ((arrayed css).map .scalar) = (arrayed css).map .scalar := rfl
  rw [texts?, Rune.runes_ofChars, hspace, list?_arrayed]
  rfl

theorem string_ofChars (cs : List Char) : string (Text.ofChars cs) = Text.ofChars (quoted cs) := by
  have hescape : (cs.map Rune.scalar).flatMap escapeRune = cs.flatMap escape := by
    rw [List.flatMap_map]
    rfl
  have hquote : utf8 "\"" = Text.ofChars ['"'] := by decide
  rw [string, Rune.runes_ofChars, hescape, hquote, ← Text.ofChars_append, ← Text.ofChars_append]
  rfl

theorem join_ofChars (css : List (List Char)) :
    Text.join (utf8 ",") ((css.map Text.ofChars).map string) = Text.ofChars (listed css) := by
  have hcomma : utf8 "," = Text.ofChars [','] := by decide
  fun_induction listed css with
  | case1 => rfl
  | case2 cs => exact string_ofChars cs
  | case3 cs ds css ih =>
    rw [List.map_cons, List.map_cons] at ih
    rw [List.map_cons, List.map_cons, List.map_cons, List.map_cons, Text.join, ih, string_ofChars,
      hcomma, ← Text.ofChars_append, ← Text.ofChars_append, List.append_assoc]
    rfl

theorem array_ofChars (css : List (List Char)) :
    array ((css.map Text.ofChars).map string) = Text.ofChars (arrayed css) := by
  have hopen : utf8 "[" = Text.ofChars ['['] := by decide
  have hclose : utf8 "]" = Text.ofChars [']'] := by decide
  rw [array, join_ofChars, hopen, hclose, ← Text.ofChars_append, ← Text.ofChars_append]
  rfl

theorem trim_arrayed (css : List (List Char)) : (Text.ofChars (arrayed css)).trim ≠ [] := by
  have hfront : ((arrayed css).map Rune.scalar).dropWhile (Rune.satisfies isBlank) =
      (arrayed css).map .scalar := rfl
  have hback : ((arrayed css).map Rune.scalar).reverse =
      .scalar ']' :: (('[' :: listed css).map Rune.scalar).reverse := by simp [arrayed]
  rw [Text.trim, Rune.runes_ofChars, trimBoth, hfront, hback,
    List.dropWhile_cons_of_neg (by decide), ← hback, List.reverse_reverse]
  exact List.cons_ne_nil _ _

end Json

/-- **The answers survive the way through JSON.** -/
theorem Bridge.inputs_array {answers : List Text} (h : ∀ t ∈ answers, ∃ cs, t = Text.ofChars cs) :
    Bridge.inputs (Json.array (answers.map Json.string)) = .ok answers := by
  obtain ⟨css, rfl⟩ : ∃ css : List (List Char), answers = css.map Text.ofChars := by
    induction answers with
    | nil => exact ⟨[], rfl⟩
    | cons t ts ih =>
      obtain ⟨cs, rfl⟩ := h t (by simp)
      obtain ⟨css, rfl⟩ := ih fun t ht => h t (by simp [ht])
      exact ⟨cs :: css, rfl⟩
  rw [Json.array_ofChars, Bridge.inputs, if_neg (Json.trim_arrayed css), Json.texts?_arrayed]

end Scriptlet
