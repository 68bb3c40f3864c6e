import Scriptlet.Text.Rune

/-!
# Scriptlet.Proofs.Utf8 — decoding gives back the characters of a text

The bytes of a character, whatever comes after them, decode to this character, and no other bytes
do.  So the runes of a text that was made of characters are these characters, with no stray byte
among them, and the bytes of the runes of a text are the text.
-/

namespace Scriptlet

namespace Rune

theorem scalar?_toNat (c : Char) {least : Nat} (h : least ≤ c.toNat) :
    scalar? least c.toNat = some c := by
  have hvalid : c.toNat.isValidChar := c.valid
  rw [scalar?, if_pos h, dif_pos hvalid]
  rfl

theorem toNat_ofNat {n : Nat} (h : n < 256) : (UInt8.ofNat n).toNat = n := by
  simp [Nat.mod_eq_of_lt h]

theorem continuation?_ofNat {n : Nat} (h : n < 0x40) :
    continuation? (UInt8.ofNat (n + 0x80)) = some n := by
  rw [continuation?, toNat_ofNat (by omega), if_pos (by omega)]
  simp

theorem toNat_lt (c : Char) : c.toNat < 0x110000 := by
  have h : c.toNat.isValidChar := c.valid
  unfold Nat.isValidChar at h
  omega

/-! One lemma for each number of bytes. -/

section Forms

variable {a b b' b'' : UInt8} {x y z : Nat} {c : Char} {t : Text}

theorem decode?_one (ha : a.toNat < 0x80) (hc : scalar? 0 a.toNat = some c) :
    decode? (a :: t) = some (c, t) := by
  unfold decode?
  dsimp only
  rw [if_pos ha, hc]
  rfl

theorem decode?_two (hlow : 0xC0 ≤ a.toNat) (ha : a.toNat < 0xE0) (hb : continuation? b = some x)
    (hc : scalar? 0x80 ((a.toNat - 0xC0) * 0x40 + x) = some c) :
    decode? (a :: b :: t) = some (c, t) := by
  unfold decode?
  dsimp only
  rw [if_neg (by omega), if_neg (by omega), if_pos ha]
  exact Option.bind_eq_some_iff.2 ⟨x, hb, Option.bind_eq_some_iff.2 ⟨c, hc, rfl⟩⟩

theorem decode?_three (hlow : 0xE0 ≤ a.toNat) (ha : a.toNat < 0xF0) (hb : continuation? b = some x)
    (hb' : continuation? b' = some y)
    (hc : scalar? 0x800 ((a.toNat - 0xE0) * 0x1000 + x * 0x40 + y) = some c) :
    decode? (a :: b :: b' :: t) = some (c, t) := by
  unfold decode?
  dsimp only
  rw [if_neg (by omega), if_neg (by omega), if_neg (by omega), if_pos ha]
  exact Option.bind_eq_some_iff.2 ⟨x, hb, Option.bind_eq_some_iff.2 ⟨y, hb',
    Option.bind_eq_some_iff.2 ⟨c, hc, rfl⟩⟩⟩

theorem decode?_four (hlow : 0xF0 ≤ a.toNat) (ha : a.toNat < 0xF8) (hb : continuation? b = some x)
    (hb' : continuation? b' = some y) (hb'' : continuation? b'' = some z)
    (hc : scalar? 0x10000 ((a.toNat - 0xF0) * 0x40000 + x * 0x1000 + y * 0x40 + z) = some c) :
    decode? (a :: b :: b' :: b'' :: t) = some (c, t) := by
  unfold decode?
  dsimp only
  rw [if_neg (by omega), if_neg (by omega), if_neg (by omega), if_neg (by omega), if_pos ha]
  exact Option.bind_eq_some_iff.2 ⟨x, hb, Option.bind_eq_some_iff.2 ⟨y, hb',
    Option.bind_eq_some_iff.2 ⟨z, hb'', Option.bind_eq_some_iff.2 ⟨c, hc, rfl⟩⟩⟩⟩

end Forms

/-- The bytes of a character decode to it, whatever comes after them. -/
theorem decode?_ofChar (c : Char) (t : Text) : decode? (Text.ofChar c ++ t) = some (c, t) := by
  have hmax := toNat_lt c
  have hcont : ∀ n, continuation? (UInt8.ofNat (n % 64 + 0x80)) = some (n % 64) := fun n =>
    continuation?_ofNat (Nat.mod_lt n (by decide))
  simp only [Text.ofChar, String.utf8EncodeChar, Char.toNat_val]
  split
  · have ha : (UInt8.ofNat c.toNat).toNat = c.toNat := toNat_ofNat (by omega)
    refine decode?_one (by omega) ?_
    rw [ha, scalar?_toNat c (Nat.zero_le _)]
  · split
    · have ha : (UInt8.ofNat (c.toNat / 64 % 32 + 192)).toNat = c.toNat / 64 % 32 + 192 :=
        toNat_ofNat (by omega)
      refine decode?_two (by omega) (by omega) (hcont _) ?_
      have hcode : (c.toNat / 64 % 32 + 192 - 0xC0) * 0x40 + c.toNat % 64 = c.toNat := by omega
      rw [ha, hcode, scalar?_toNat c (by omega)]
    · split
      · have ha : (UInt8.ofNat (c.toNat / 4096 % 16 + 224)).toNat = c.toNat / 4096 % 16 + 224 :=
          toNat_ofNat (by omega)
        refine decode?_three (by omega) (by omega) (hcont _) (hcont _) ?_
        have hcode : (c.toNat / 4096 % 16 + 224 - 0xE0) * 0x1000 + c.toNat / 64 % 64 * 0x40 +
            c.toNat % 64 = c.toNat := by omega
        rw [ha, hcode, scalar?_toNat c (by omega)]
      · have ha : (UInt8.ofNat (c.toNat / 262144 % 8 + 240)).toNat = c.toNat / 262144 % 8 + 240 :=
          toNat_ofNat (by omega)
        refine decode?_four (by omega) (by omega) (hcont _) (hcont _) (hcont _) ?_
        have hcode : (c.toNat / 262144 % 8 + 240 - 0xF0) * 0x40000 + c.toNat / 4096 % 64 * 0x1000 +
            c.toNat / 64 % 64 * 0x40 + c.toNat % 64 = c.toNat := by omega
        rw [ha, hcode, scalar?_toNat c (by omega)]

theorem runes_ofChars (cs : List Char) : (Text.ofChars cs).runes = cs.map .scalar := by
  induction cs with
  | nil =>
    rw [Text.runes]
    rfl
  | cons c cs ih =>
    have hd : decode? (Text.ofChars (c :: cs)) = some (c, Text.ofChars cs) := decode?_ofChar c _
    rw [Text.runes]
    split
    · next hd' =>
      cases hd.symm.trans hd'
      rw [ih]
      rfl
    · next hd' => cases hd.symm.trans hd'

/-! No other bytes decode to a character. -/

theorem scalar?_eq_some {least n : Nat} {c : Char} (h : scalar? least n = some c) :
    least ≤ n ∧ c.toNat = n := by
  unfold scalar? at h
  by_cases hleast : least ≤ n
  · rw [if_pos hleast] at h
    by_cases hvalid : n.isValidChar
    · rw [dif_pos hvalid] at h
      obtain rfl := Option.some.inj h
      exact ⟨hleast, rfl⟩
    · rw [dif_neg hvalid] at h
      cases h
  · rw [if_neg hleast] at h
    cases h

theorem continuation?_eq_some {b : UInt8} {x : Nat} (h : continuation? b = some x) :
    b.toNat = x + 0x80 ∧ x < 0x40 := by
  unfold continuation? at h
  split at h
  · obtain rfl := Option.some.inj h
    omega
  · cases h

theorem ofNat_eq {b : UInt8} {n : Nat} (h : b.toNat = n) : UInt8.ofNat n = b := by
  rw [← h, UInt8.ofNat_toNat]

section Forms

variable {a b b' b'' : UInt8} {x y z : Nat} {c : Char}

theorem ofChar_one (ha : a.toNat < 0x80) (hc : scalar? 0 a.toNat = some c) :
    Text.ofChar c = [a] := by
  obtain ⟨-, hcode⟩ := scalar?_eq_some hc
  simp only [Text.ofChar, String.utf8EncodeChar, Char.toNat_val]
  rw [if_pos (by omega), ofNat_eq hcode.symm]

theorem ofChar_two (hlow : 0xC0 ≤ a.toNat) (ha : a.toNat < 0xE0) (hb : continuation? b = some x)
    (hc : scalar? 0x80 ((a.toNat - 0xC0) * 0x40 + x) = some c) : Text.ofChar c = [a, b] := by
  obtain ⟨hleast, hcode⟩ := scalar?_eq_some hc
  have hx := continuation?_eq_some hb
  simp only [Text.ofChar, String.utf8EncodeChar, Char.toNat_val]
  rw [if_neg (by omega), if_pos (by omega), ofNat_eq (b := a) (by omega),
    ofNat_eq (b := b) (by omega)]

theorem ofChar_three (hlow : 0xE0 ≤ a.toNat) (ha : a.toNat < 0xF0) (hb : continuation? b = some x)
    (hb' : continuation? b' = some y)
    (hc : scalar? 0x800 ((a.toNat - 0xE0) * 0x1000 + x * 0x40 + y) = some c) :
    Text.ofChar c = [a, b, b'] := by
  obtain ⟨hleast, hcode⟩ := scalar?_eq_some hc
  have hx := continuation?_eq_some hb
  have hy := continuation?_eq_some hb'
  simp only [Text.ofChar, String.utf8EncodeChar, Char.toNat_val]
  rw [if_neg (by omega), if_neg (by omega), if_pos (by omega), ofNat_eq (b := a) (by omega),
    ofNat_eq (b := b) (by omega), ofNat_eq (b := b') (by omega)]

theorem ofChar_four (hlow : 0xF0 ≤ a.toNat) (hb : continuation? b = some x)
    (hb' : continuation? b' = some y) (hb'' : continuation? b'' = some z)
    (hc : scalar? 0x10000 ((a.toNat - 0xF0) * 0x40000 + x * 0x1000 + y * 0x40 + z) = some c) :
    Text.ofChar c = [a, b, b', b''] := by
  have hmax := toNat_lt c
  obtain ⟨hleast, hcode⟩ := scalar?_eq_some hc
  have hx := continuation?_eq_some hb
  have hy := continuation?_eq_some hb'
  have hz := continuation?_eq_some hb''
  simp only [Text.ofChar, String.utf8EncodeChar, Char.toNat_val]
  rw [if_neg (by omega), if_neg (by omega), if_neg (by omega), ofNat_eq (b := a) (by omega),
    ofNat_eq (b := b) (by omega), ofNat_eq (b := b') (by omega), ofNat_eq (b := b'') (by omega)]

end Forms

/-- The bytes that decode to a character are its own. -/
theorem eq_ofChar_of_decode? {t r : Text} {c : Char} (h : decode? t = some (c, r)) :
    t = Text.ofChar c ++ r := by
  unfold decode? at h
  split at h
  · cases h
  split at h
  · next ha =>
    simp only [Option.map_eq_some_iff, Prod.mk.injEq] at h
    obtain ⟨_, hc, rfl, rfl⟩ := h
    rw [ofChar_one ha hc]
    rfl
  split at h
  · cases h
  next hlow =>
  split at h
  · next ha =>
    split at h
    · simp only [Option.bind_eq_bind, Option.bind_eq_some_iff, pure, Option.some.injEq,
        Prod.mk.injEq] at h
      obtain ⟨x, hx, _, hc, rfl, rfl⟩ := h
      rw [ofChar_two (Nat.not_lt.1 hlow) ha hx hc]
      rfl
    · cases h
  next hlow =>
  split at h
  · next ha =>
    split at h
    · simp only [Option.bind_eq_bind, Option.bind_eq_some_iff, pure, Option.some.injEq,
        Prod.mk.injEq] at h
      obtain ⟨x, hx, y, hy, _, hc, rfl, rfl⟩ := h
      rw [ofChar_three (Nat.not_lt.1 hlow) ha hx hy hc]
      rfl
    · cases h
  next hlow =>
  split at h
  · split at h
    · simp only [Option.bind_eq_bind, Option.bind_eq_some_iff, pure, Option.some.injEq,
        Prod.mk.injEq] at h
      obtain ⟨x, hx, y, hy, z, hz, _, hc, rfl, rfl⟩ := h
      rw [ofChar_four (Nat.not_lt.1 hlow) hx hy hz hc]
      rfl
    · cases h
  · cases h

/-- Decoding loses nothing. -/
theorem ofRunes_runes (t : Text) : Text.ofRunes t.runes = t := by
  fun_induction Text.runes t with
  | case1 t c rest hd ih =>
    rw [eq_ofChar_of_decode? hd]
    exact congrArg (Text.ofChar c ++ ·) ih
  | case2 => rfl
  | case3 b rest _ ih => exact congrArg (b :: ·) ih

end Rune

theorem Text.ofChars_append (cs ds : List Char) :
    Text.ofChars (cs ++ ds) = Text.ofChars cs ++ Text.ofChars ds :=
  List.flatMap_append

end Scriptlet
