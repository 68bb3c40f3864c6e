import Scriptlet.Text.Basic

/-!
# Scriptlet.Text.Base64 — bytes written with sixty-four characters

Three bytes are written as four characters of six bits each; the last group is filled up with equals
signs.  Line breaks do not count.
-/

namespace Scriptlet.Base64

/-- The six bits of a character. -/
def value? (c : Char) : Option Nat :=
  if 'A' ≤ c ∧ c ≤ 'Z' then some (c.toNat - 'A'.toNat)
  else if 'a' ≤ c ∧ c ≤ 'z' then some (c.toNat - 'a'.toNat + 26)
  else if '0' ≤ c ∧ c ≤ '9' then some (c.toNat - '0'.toNat + 52)
  else if c = '+' then some 62
  else if c = '/' then some 63
  else none

/-- The bytes of groups of four characters. -/
def groups? : List Char → Option Text
  | [] => some []
  | a :: b :: c :: d :: rest => do
    let x ← value? a
    let y ← value? b
    let first := (x * 4 + y / 16).toUInt8
    if c = '=' ∧ d = '=' ∧ rest = [] then return [first]
    let z ← value? c
    let second := (y % 16 * 16 + z / 4).toUInt8
    if d = '=' ∧ rest = [] then return [first, second]
    let w ← value? d
    let third := (z % 4 * 64 + w).toUInt8
    return first :: second :: third :: (← groups? rest)
  | _ => none

/-- The bytes that a text in base 64 stands for. -/
def decode? (cs : List Char) : Option Text := groups? (cs.filter fun c => c != '\r' && c != '\n')

end Scriptlet.Base64
