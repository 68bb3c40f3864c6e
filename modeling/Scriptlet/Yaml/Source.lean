import Scriptlet.Text.Rune

/-!
# Scriptlet.Yaml.Source — the characters of a YAML document

A document is read in batches of bytes, and all characters of a batch are decoded together.  So a
document with a fault in a later batch can be read up to that batch, and no further.
-/

namespace Scriptlet.Yaml

/-- What is wrong with a document does not matter: it cannot be read. -/
structure Malformed where
  deriving DecidableEq, Repr

/-- Whether a character may occur in a document at all. -/
def isAllowed (c : Char) : Bool :=
  let n := c.toNat
  n == 0x09 || n == 0x0A || n == 0x0D || (0x20 ≤ n && n ≤ 0x7E) || n == 0x85 ||
    (0xA0 ≤ n && n ≤ 0xFFFD) || 0x10000 ≤ n

/-- How a document writes its characters. -/
inductive Encoding where
  | utf8
  | utf16 (littleEndian : Bool)
  deriving DecidableEq, Repr

namespace Encoding

/-- The encoding that the mark at the start of a document tells, and what comes after the mark. -/
def detect : Text → Encoding × Text
  | 0xFF :: 0xFE :: rest => (utf16 true, rest)
  | 0xFE :: 0xFF :: rest => (utf16 false, rest)
  | 0xEF :: 0xBB :: 0xBF :: rest => (utf8, rest)
  | bytes => (utf8, bytes)

/-- The number of bytes of a character, by the first of them. -/
def width? (b : UInt8) : Option Nat :=
  if b < 0x80 then some 1
  else if b < 0xC0 then none
  else if b < 0xE0 then some 2
  else if b < 0xF0 then some 3
  else if b < 0xF8 then some 4
  else none

/-- What stands at the start of some bytes. -/
inductive First where
  | char (c : Char) (rest : Text)
  /-- The start of a character whose other bytes are missing. -/
  | cut
  | bad
  deriving DecidableEq, Repr

/-- The number that two bytes make. -/
def unit (littleEndian : Bool) (a b : UInt8) : Nat :=
  if littleEndian then b.toNat * 256 + a.toNat else a.toNat * 256 + b.toNat

/-- Whether a unit is the first of two that make a character. -/
def isHigh (n : Nat) : Bool := 0xD800 ≤ n && n < 0xDC00

/-- Whether a unit is the second of two that make a character. -/
def isLow (n : Nat) : Bool := 0xDC00 ≤ n && n < 0xE000

/-- The first character of some bytes. -/
def first : Encoding → Text → First
  | utf8, [] => .cut
  | utf8, b :: bs =>
    match width? b with
    | none => .bad
    | some w =>
      if ((b :: bs).take w).length < w then .cut
      else match Rune.decode? (b :: bs) with
        | some (c, rest) => .char c rest
        | none => .bad
  | utf16 little, a :: b :: bs =>
    let n := unit little a b
    if isLow n then .bad
    else if isHigh n then
      match bs with
      | c :: d :: bs' =>
        let m := unit little c d
        if isLow m then .char (Char.ofNat (0x10000 + (n - 0xD800) * 0x400 + (m - 0xDC00))) bs'
        else .bad
      | _ => .cut
    else .char (Char.ofNat n) bs
  | utf16 _, _ => .cut

/-- The characters of some bytes and the bytes of a character that is cut off at their end, unless
there is a fault among them.  There are `count` characters at most. -/
def decode? (e : Encoding) : (count : Nat) → Text → Option (List Char × Text)
  | 0, bytes => some ([], bytes)
  | count + 1, bytes =>
    match e.first bytes with
    | .cut => some ([], bytes)
    | .bad => none
    | .char c rest =>
      if isAllowed c then (decode? e count rest).map fun (cs, left) => (c :: cs, left) else none

end Encoding

/-- A document as far as it can be decoded. -/
structure Source where
  batches : List (List Char)
  /-- Whether these are all batches. -/
  sound : Bool
  deriving DecidableEq, Repr

namespace Source

/-- The number of bytes in hand when a batch is decoded. -/
def batchSize : Nat := 512

/-- The source made of the bytes in hand and of those not yet read, in `count` batches at most. -/
def decode (e : Encoding) : (count : Nat) → (hand unread : Text) → Source
  | 0, _, _ => ⟨[], false⟩
  | count + 1, hand, unread =>
    match e.decode? hand.length hand with
    | none => ⟨[], false⟩
    | some (cs, left) =>
      if unread = [] then ⟨[cs], left.isEmpty⟩
      else
        let room := batchSize - left.length
        let more := decode e count (left ++ unread.take room) (unread.drop room)
        { more with batches := cs :: more.batches }

/-- The source in the bytes of a document. -/
def ofBytes (bytes : Text) : Source :=
  let (e, hand) := Encoding.detect (bytes.take batchSize)
  decode e (bytes.length + 1) hand (bytes.drop batchSize)

/-- The characters that can be decoded. -/
def chars (s : Source) : List Char := s.batches.flatten

end Source

end Scriptlet.Yaml
