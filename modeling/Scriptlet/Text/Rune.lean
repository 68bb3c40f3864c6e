import Scriptlet.Text.Basic

/-!
# Scriptlet.Text.Rune — a byte string as a sequence of runes

Decoding a byte string yields scalars where the bytes are well-formed UTF-8 and stray bytes
elsewhere; every stray byte is a rune of its own, so decoding never fails and loses nothing.
-/

namespace Scriptlet

/-- A decoded character, or a byte that belongs to none. -/
inductive Rune where
  | scalar (c : Char)
  | stray (b : UInt8)
  deriving DecidableEq, Repr

namespace Rune

/-- The six payload bits of a continuation byte. -/
def continuation? (b : UInt8) : Option Nat :=
  if 0x80 ≤ b.toNat ∧ b.toNat < 0xC0 then some (b.toNat - 0x80) else none

/-- The character with code `n`, unless a shorter form exists or `n` is no scalar value. -/
def scalar? (least n : Nat) : Option Char :=
  if least ≤ n then if h : n.isValidChar then some (Char.ofNatAux n h) else none else none

/-- The character at the front of `t` and the bytes after it. -/
def decode? : Text → Option (Char × Text)
  | [] => none
  | a :: t =>
    if a.toNat < 0x80 then (scalar? 0 a.toNat).map (·, t)
    else if a.toNat < 0xC0 then none
    else if a.toNat < 0xE0 then
      match t with
      | b :: t => do
        let x ← continuation? b
        let c ← scalar? 0x80 ((a.toNat - 0xC0) * 0x40 + x)
        return (c, t)
      | _ => none
    else if a.toNat < 0xF0 then
      match t with
      | b :: b' :: t => do
        let x ← continuation? b
        let y ← continuation? b'
        let c ← scalar? 0x800 ((a.toNat - 0xE0) * 0x1000 + x * 0x40 + y)
        return (c, t)
      | _ => none
    else if a.toNat < 0xF8 then
      match t with
      | b :: b' :: b'' :: t => do
        let x ← continuation? b
        let y ← continuation? b'
        let z ← continuation? b''
        let c ← scalar? 0x10000 ((a.toNat - 0xF0) * 0x40000 + x * 0x1000 + y * 0x40 + z)
        return (c, t)
      | _ => none
    else none

theorem length_of_decode? {t r : Text} {c : Char} (h : decode? t = some (c, r)) :
    r.length < t.length := by
  unfold decode? at h
  split at h
  · cases h
  · split at h
    · simp only [Option.map_eq_some_iff, Prod.mk.injEq] at h
      obtain ⟨_, _, _, rfl⟩ := h
      simp
    · split at h
      · cases h
      · split at h
        · split at h
          · simp only [Option.bind_eq_bind, Option.bind_eq_some_iff, pure, Option.some.injEq,
              Prod.mk.injEq] at h
            obtain ⟨_, _, _, _, _, rfl⟩ := h
            simp only [List.length_cons]; omega
          · cases h
        · split at h
          · split at h
            · simp only [Option.bind_eq_bind, Option.bind_eq_some_iff, pure, Option.some.injEq,
                Prod.mk.injEq] at h
              obtain ⟨_, _, _, _, _, _, _, rfl⟩ := h
              simp only [List.length_cons]; omega
            · cases h
          · split at h
            · split at h
              · simp only [Option.bind_eq_bind, Option.bind_eq_some_iff, pure, Option.some.injEq,
                  Prod.mk.injEq] at h
                obtain ⟨_, _, _, _, _, _, _, _, _, rfl⟩ := h
                simp only [List.length_cons]; omega
              · cases h
            · cases h

/-- The bytes of a rune. -/
def encode : Rune → Text
  | .scalar c => Text.ofChar c
  | .stray b => [b]

/-- Whether a rune is a character with property `p`. -/
def satisfies (p : Char → Bool) : Rune → Bool
  | .scalar c => p c
  | .stray _ => false

end Rune

namespace Text

/-- The first rune and the bytes after it. -/
def uncons? : Text → Option (Rune × Text)
  | [] => none
  | b :: t =>
    match Rune.decode? (b :: t) with
    | some (c, rest) => some (.scalar c, rest)
    | none => some (.stray b, t)

theorem length_of_uncons? {t r : Text} {x : Rune} (h : uncons? t = some (x, r)) :
    r.length < t.length := by
  unfold uncons? at h
  split at h
  · cases h
  · split at h
    · next hd =>
      obtain ⟨_, rfl⟩ := Prod.mk.inj (Option.some.inj h)
      exact Rune.length_of_decode? hd
    · obtain ⟨_, rfl⟩ := Prod.mk.inj (Option.some.inj h)
      exact Nat.lt_succ_self _

/-- The runes of a byte string. -/
def runes (t : Text) : List Rune :=
  match _h : Rune.decode? t with
  | some (c, rest) => .scalar c :: runes rest
  | none =>
    match t with
    | [] => []
    | b :: rest => .stray b :: runes rest
termination_by t.length
decreasing_by
  · exact Rune.length_of_decode? (by assumption)
  · simp

/-- The bytes of a list of runes. -/
def ofRunes (rs : List Rune) : Text := rs.flatMap Rune.encode

/-- The characters of a byte string, if it is well-formed UTF-8. -/
def chars? (t : Text) : Option (List Char) :=
  t.runes.mapM fun
    | .scalar c => some c
    | .stray _ => none

end Text

end Scriptlet
