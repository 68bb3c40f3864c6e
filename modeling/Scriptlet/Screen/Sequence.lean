import Scriptlet.Screen.Pen
import Scriptlet.Text.Columns

/-!
# Scriptlet.Screen.Sequence — a text as it is laid out

To be laid out in rows, a text is taken apart into clusters and control sequences.  Two kinds of
control sequences matter beyond their being there: those that change the pen and those that begin or
end a link.
-/

namespace Scriptlet

/-- What a part of a text means for its layout. -/
inductive Meaning where
  | none
  | pen (parameters : List Parameter)
  | link (data : Text)
  deriving DecidableEq, Repr

/-- A part of a text that stays together. -/
structure Piece where
  text : Text
  columns : Nat := 0
  meaning : Meaning := .none
  deriving DecidableEq, Repr

namespace Piece

/-! ### Sequences with parameters -/

/-- The parameters written in a control sequence; one that is missing counts as zero, and there are
none at all if nothing is written. -/
def parametersFrom (value : Nat) : Text → List Parameter
  | [] => [⟨value, false⟩]
  | b :: t =>
    if b = 0x3B then ⟨value, false⟩ :: parametersFrom 0 t
    else if b = 0x3A then ⟨value, true⟩ :: parametersFrom 0 t
    else parametersFrom (value * 10 + (b.toNat - 0x30)) t

def parameters (t : Text) : List Parameter := if t = [] then [] else parametersFrom 0 t

def isMarker (b : UInt8) : Bool := 0x3C ≤ b && b ≤ 0x3F
def isParameter (b : UInt8) : Bool := 0x30 ≤ b && b ≤ 0x3B
def isIntermediate (b : UInt8) : Bool := 0x20 ≤ b && b ≤ 0x2F
def isFinal (b : UInt8) : Bool := 0x40 ≤ b && b ≤ 0x7E

/-- How a scanned part ends: `length` bytes long, and whether it was complete. -/
structure Extent where
  length : Nat
  complete : Bool

/-! ### Strings -/

/-- The end of a string after its introduction.  A bell ends commands to the system only, and what
cancels a string is not part of it. -/
def stringExtent (system : Bool) : Text → Extent
  | [] => ⟨0, false⟩
  | b :: t =>
    if b = 0x07 ∧ system then ⟨1, true⟩
    else if b = 0x18 ∨ b = 0x1A then ⟨0, true⟩
    else if b = 0x9C then ⟨1, true⟩
    else if b = 0x1B then if t.head? = some 0x5C then ⟨2, true⟩ else ⟨0, false⟩
    else
      let e := stringExtent system t
      ⟨e.length + 1, e.complete⟩

/-- The data of a string: its bytes without the mark at its end. -/
def stringData : Text → Text
  | [] => []
  | b :: t =>
    if b = 0x07 ∨ b = 0x18 ∨ b = 0x1A ∨ b = 0x9C ∨ b = 0x1B then [] else b :: stringData t

/-- What the data of a command to the system means: number eight is for links. -/
def systemMeaning (data : Text) (complete : Bool) : Meaning :=
  let number := data.takeWhile fun b => 0x30 ≤ b && b ≤ 0x39
  let value : Nat := number.foldl (fun n b => n * 10 + (b.toNat - 0x30)) 0
  if number ≠ [] ∧ value = 8 ∧ (complete ∨ data.contains 0x3B) then .link data else .none

/-- A string after its introduction `start`. -/
def string (start : Text) (system : Bool) (t : Text) : Piece :=
  let e := stringExtent system t
  { text := start ++ t.take e.length
    meaning := if system then systemMeaning (stringData t) e.complete else .none }

/-- A sequence with parameters after its introduction `start`; `device` if a string follows it. -/
def control (start : Text) (device : Bool) (t : Text) : Piece :=
  let markers := t.takeWhile isMarker
  let t₁ := t.dropWhile isMarker
  let written := t₁.takeWhile isParameter
  let t₂ := t₁.dropWhile isParameter
  let intermediates := t₂.takeWhile isIntermediate
  let t₃ := t₂.dropWhile isIntermediate
  let body := start ++ markers ++ written ++ intermediates
  match t₃ with
  | [] => { text := body }
  | b :: rest =>
    if isFinal b then
      if device then string (body ++ [b]) false rest
      else
        let isPen := b = 0x6D ∧ markers = [] ∧ intermediates = []
        { text := body ++ [b], meaning := if isPen then .pen (parameters written) else .none }
    else { text := body }

/-- A sequence after an escape character; `start` is what has been read of it.  Only where nothing
stands between do the two belong together for what the sequence means. -/
def escape (start : Text) : Text → Piece
  | [] => { text := start }
  | b :: t =>
    let direct := start = [0x1B]
    if b = 0x5B then
      let p := control (start ++ [b]) false t
      if direct then p else { p with meaning := .none }
    else if b = 0x50 then control (start ++ [b]) direct t
    else if b = 0x5D then string (start ++ [b]) direct t
    else if b = 0x58 ∨ b = 0x5E ∨ b = 0x5F then string (start ++ [b]) false t
    else if isIntermediate b then escape (start ++ [b]) t
    else if 0x30 ≤ b ∧ b ≤ 0x7E then { text := start ++ [b] }
    else { text := start }

/-- The part at the front of a text that begins with `b`. -/
def first (b : UInt8) (t : Text) : Piece :=
  if b = 0x1B then escape [b] t
  else if b = 0x9B then control [b] false t
  else if b = 0x90 then control [b] true t
  else if b = 0x9D then string [b] true t
  else if b = 0x98 ∨ b = 0x9E ∨ b = 0x9F then string [b] false t
  else if 0x20 ≤ b ∧ b < 0x7F then { text := [b], columns := 1 }
  else if b < 0xC0 then { text := [b] }
  else match Text.uncons? (b :: t) with
    | none => { text := [b] }
    | some (r, rest) =>
      let (c, _) := Cluster.first r rest
      { text := c.text, columns := c.columns }

/-- The parts of a text; as many steps as it has bytes are enough. -/
def allFrom : Nat → Text → List Piece
  | 0, _ => []
  | _, [] => []
  | n + 1, b :: t =>
    let p := first b t
    p :: allFrom n (t.drop (p.text.length - 1))

def all (t : Text) : List Piece := allFrom t.length t

end Piece

end Scriptlet
