import Scriptlet.Text.BreakClass

/-!
# Scriptlet.Text.Columns — how wide a text is on a terminal

A terminal shows most characters in one column.  Characters that are wide or full-width in Unicode
15.0 take two, control characters and marks none.  A cluster of characters is as wide as its parts
together, except that a pictograph, a flag or a syllable is as wide as its first character.
-/

namespace Scriptlet

namespace Columns

/-- Characters that take two columns. -/
def wide : List (Nat × Nat) := [
  (0x1100, 0x115F), (0x231A, 0x231B), (0x2329, 0x232A), (0x23E9, 0x23EC), (0x23F0, 0x23F0),
  (0x23F3, 0x23F3), (0x25FD, 0x25FE), (0x2614, 0x2615), (0x2648, 0x2653), (0x267F, 0x267F),
  (0x2693, 0x2693), (0x26A1, 0x26A1), (0x26AA, 0x26AB), (0x26BD, 0x26BE), (0x26C4, 0x26C5),
  (0x26CE, 0x26CE), (0x26D4, 0x26D4), (0x26EA, 0x26EA), (0x26F2, 0x26F3), (0x26F5, 0x26F5),
  (0x26FA, 0x26FA), (0x26FD, 0x26FD), (0x2705, 0x2705), (0x270A, 0x270B), (0x2728, 0x2728),
  (0x274C, 0x274C), (0x274E, 0x274E), (0x2753, 0x2755), (0x2757, 0x2757), (0x2795, 0x2797),
  (0x27B0, 0x27B0), (0x27BF, 0x27BF), (0x2B1B, 0x2B1C), (0x2B50, 0x2B50), (0x2B55, 0x2B55),
  (0x2E80, 0x2E99), (0x2E9B, 0x2EF3), (0x2F00, 0x2FD5), (0x2FF0, 0x2FFB), (0x3000, 0x303E),
  (0x3041, 0x3096), (0x3099, 0x30FF), (0x3105, 0x312F), (0x3131, 0x318E), (0x3190, 0x31E3),
  (0x31F0, 0x321E), (0x3220, 0x3247), (0x3250, 0x4DBF), (0x4E00, 0xA48C), (0xA490, 0xA4C6),
  (0xA960, 0xA97C), (0xAC00, 0xD7A3), (0xF900, 0xFAFF), (0xFE10, 0xFE19), (0xFE30, 0xFE52),
  (0xFE54, 0xFE66), (0xFE68, 0xFE6B), (0xFF01, 0xFF60), (0xFFE0, 0xFFE6), (0x16FE0, 0x16FE4),
  (0x16FF0, 0x16FF1), (0x17000, 0x187F7), (0x18800, 0x18CD5), (0x18D00, 0x18D08),
  (0x1AFF0, 0x1AFF3), (0x1AFF5, 0x1AFFB), (0x1AFFD, 0x1AFFE), (0x1B000, 0x1B122),
  (0x1B132, 0x1B132), (0x1B150, 0x1B152), (0x1B155, 0x1B155), (0x1B164, 0x1B167),
  (0x1B170, 0x1B2FB), (0x1F004, 0x1F004), (0x1F0CF, 0x1F0CF), (0x1F18E, 0x1F18E),
  (0x1F191, 0x1F19A), (0x1F200, 0x1F202), (0x1F210, 0x1F23B), (0x1F240, 0x1F248),
  (0x1F250, 0x1F251), (0x1F260, 0x1F265), (0x1F300, 0x1F320), (0x1F32D, 0x1F335),
  (0x1F337, 0x1F37C), (0x1F37E, 0x1F393), (0x1F3A0, 0x1F3CA), (0x1F3CF, 0x1F3D3),
  (0x1F3E0, 0x1F3F0), (0x1F3F4, 0x1F3F4), (0x1F3F8, 0x1F43E), (0x1F440, 0x1F440),
  (0x1F442, 0x1F4FC), (0x1F4FF, 0x1F53D), (0x1F54B, 0x1F54E), (0x1F550, 0x1F567),
  (0x1F57A, 0x1F57A), (0x1F595, 0x1F596), (0x1F5A4, 0x1F5A4), (0x1F5FB, 0x1F64F),
  (0x1F680, 0x1F6C5), (0x1F6CC, 0x1F6CC), (0x1F6D0, 0x1F6D2), (0x1F6D5, 0x1F6D7),
  (0x1F6DC, 0x1F6DF), (0x1F6EB, 0x1F6EC), (0x1F6F4, 0x1F6FC), (0x1F7E0, 0x1F7EB),
  (0x1F7F0, 0x1F7F0), (0x1F90C, 0x1F93A), (0x1F93C, 0x1F945), (0x1F947, 0x1F9FF),
  (0x1FA70, 0x1FA7C), (0x1FA80, 0x1FA88), (0x1FA90, 0x1FABD), (0x1FABF, 0x1FAC5),
  (0x1FACE, 0x1FADB), (0x1FAE0, 0x1FAE8), (0x1FAF0, 0x1FAF8), (0x20000, 0x2FFFD),
  (0x30000, 0x3FFFD)]

/-- Pictographs that are shown in colours unless something else is asked for. -/
def colourful : List (Nat × Nat) := [
  (0x231A, 0x231B), (0x23E9, 0x23EC), (0x23F0, 0x23F0), (0x23F3, 0x23F3), (0x25FD, 0x25FE),
  (0x2614, 0x2615), (0x2648, 0x2653), (0x267F, 0x267F), (0x2693, 0x2693), (0x26A1, 0x26A1),
  (0x26AA, 0x26AB), (0x26BD, 0x26BE), (0x26C4, 0x26C5), (0x26CE, 0x26CE), (0x26D4, 0x26D4),
  (0x26EA, 0x26EA), (0x26F2, 0x26F3), (0x26F5, 0x26F5), (0x26FA, 0x26FA), (0x26FD, 0x26FD),
  (0x2705, 0x2705), (0x270A, 0x270B), (0x2728, 0x2728), (0x274C, 0x274C), (0x274E, 0x274E),
  (0x2753, 0x2755), (0x2757, 0x2757), (0x2795, 0x2797), (0x27B0, 0x27B0), (0x27BF, 0x27BF),
  (0x2B1B, 0x2B1C), (0x2B50, 0x2B50), (0x2B55, 0x2B55), (0x1F004, 0x1F004), (0x1F0CF, 0x1F0CF),
  (0x1F18E, 0x1F18E), (0x1F191, 0x1F19A), (0x1F1E6, 0x1F1FF), (0x1F201, 0x1F201),
  (0x1F21A, 0x1F21A), (0x1F22F, 0x1F22F), (0x1F232, 0x1F236), (0x1F238, 0x1F23A),
  (0x1F250, 0x1F251), (0x1F300, 0x1F320), (0x1F32D, 0x1F335), (0x1F337, 0x1F37C),
  (0x1F37E, 0x1F393), (0x1F3A0, 0x1F3CA), (0x1F3CF, 0x1F3D3), (0x1F3E0, 0x1F3F0),
  (0x1F3F4, 0x1F3F4), (0x1F3F8, 0x1F43E), (0x1F440, 0x1F440), (0x1F442, 0x1F4FC),
  (0x1F4FF, 0x1F53D), (0x1F54B, 0x1F54E), (0x1F550, 0x1F567), (0x1F57A, 0x1F57A),
  (0x1F595, 0x1F596), (0x1F5A4, 0x1F5A4), (0x1F5FB, 0x1F64F), (0x1F680, 0x1F6C5),
  (0x1F6CC, 0x1F6CC), (0x1F6D0, 0x1F6D2), (0x1F6D5, 0x1F6D7), (0x1F6DC, 0x1F6DF),
  (0x1F6EB, 0x1F6EC), (0x1F6F4, 0x1F6FC), (0x1F7E0, 0x1F7EB), (0x1F7F0, 0x1F7F0),
  (0x1F90C, 0x1F93A), (0x1F93C, 0x1F945), (0x1F947, 0x1F9FF), (0x1FA70, 0x1FA7C),
  (0x1FA80, 0x1FA88), (0x1FA90, 0x1FABD), (0x1FABF, 0x1FAC5), (0x1FACE, 0x1FADB),
  (0x1FAE0, 0x1FAE8), (0x1FAF0, 0x1FAF8)]

/-- The columns of a character of the given class. -/
def ofChar (c : Char) (kind : BreakClass) : Nat :=
  match kind with
  | .control | .carriageReturn | .lineFeed | .extend | .joiner => 0
  | .regional => 2
  | .pictograph => if BreakClass.covers colourful c.toNat then 2 else 1
  | _ =>
    if c.toNat < 0x300 then 1
    else if c.toNat = 0x2E3A then 3
    else if c.toNat = 0x2E3B then 4
    else if BreakClass.covers wide c.toNat then 2
    else 1

/-- The columns of a rune; a stray byte is shown as a replacement character. -/
def ofRune (r : Rune) (kind : BreakClass) : Nat :=
  match r with
  | .scalar c => ofChar c kind
  | .stray _ => 1

end Columns

/-! ### Clusters -/

/-- What is known of a cluster from its last characters. -/
inductive ClusterState where
  | any
  | carriageReturn
  | control
  | leading
  | vowel
  | trailing
  | prepended
  | pictograph
  /-- A pictograph and a joiner. -/
  | joining
  /-- The first letter of a flag. -/
  | halfFlag
  | flag
  deriving DecidableEq, Repr

namespace ClusterState

/-- The state after a character that is considered alone, and whether a cluster may begin there. -/
def fresh : BreakClass → ClusterState × Bool
  | .carriageReturn => (carriageReturn, true)
  | .lineFeed | .control => (control, true)
  | .leading => (leading, true)
  | .openSyllable | .vowel => (vowel, true)
  | .closedSyllable | .trailing => (trailing, true)
  | .extend | .joiner | .spacing => (any, false)
  | .prepended => (prepended, true)
  | .pictograph => (pictograph, true)
  | .regional => (halfFlag, true)
  | .other => (any, true)

/-- The state after the next character, and whether a new cluster begins with it. -/
def next (s : ClusterState) (c : BreakClass) : ClusterState × Bool :=
  match s, c with
  | .carriageReturn, .lineFeed => (control, false)
  | .leading, .leading => (leading, false)
  | .leading, .vowel | .leading, .openSyllable => (vowel, false)
  | .leading, .closedSyllable => (trailing, false)
  | .vowel, .vowel => (vowel, false)
  | .vowel, .trailing => (trailing, false)
  | .trailing, .trailing => (trailing, false)
  | .pictograph, .extend => (pictograph, false)
  | .pictograph, .joiner => (joining, false)
  | .joining, .pictograph => (pictograph, false)
  | .halfFlag, .regional => (flag, false)
  | .carriageReturn, c | .control, c => ((fresh c).1, true)
  | .prepended, c => ((fresh c).1, c = .carriageReturn ∨ c = .lineFeed ∨ c = .control)
  | _, c => fresh c

end ClusterState

/-- A sequence of runes that is shown as one character. -/
structure Cluster where
  text : Text
  columns : Nat
  deriving DecidableEq, Repr

namespace Cluster

/-- The columns of a cluster with one more rune, given the class of its first rune. -/
def widen (first : BreakClass) (columns : Nat) (r : Rune) (kind : BreakClass) : Nat :=
  match first with
  | .pictograph =>
    if r = .scalar (Char.ofNat 0xFE0E) then 1
    else if r = .scalar (Char.ofNat 0xFE0F) then 2
    else columns
  | .regional | .leading => columns
  | _ => columns + Columns.ofRune r kind

/-- The rest of a cluster begun before: its text, the columns of the cluster with it, and the text
after it. -/
def extend (first : BreakClass) (s : ClusterState) (columns : Nat) (t : Text) : Text × Nat × Text :=
  match _h : t.uncons? with
  | none => ([], columns, [])
  | some (r, rest) =>
    let kind := BreakClass.ofRune r
    match s.next kind with
    | (_, true) => ([], columns, t)
    | (s', false) =>
      let (joined, columns, rest') := extend first s' (widen first columns r kind) rest
      (r.encode ++ joined, columns, rest')
termination_by t.length
decreasing_by exact Text.length_of_uncons? _h

/-- The cluster that begins with a rune, and the text after it. -/
def first (r : Rune) (t : Text) : Cluster × Text :=
  let kind := BreakClass.ofRune r
  let (joined, columns, rest) := extend kind (ClusterState.fresh kind).1 (Columns.ofRune r kind) t
  (⟨r.encode ++ joined, columns⟩, rest)

theorem length_extend (f : BreakClass) (s : ClusterState) (n : Nat) (t : Text) :
    (extend f s n t).2.2.length ≤ t.length := by
  fun_induction extend f s n t with
  | case1 => exact Nat.zero_le _
  | case2 => exact Nat.le_refl _
  | case3 _ _ _ _ _ h _ _ _ _ _ _ heq ih =>
    rw [heq] at ih
    exact Nat.le_trans ih (Nat.le_of_lt (Text.length_of_uncons? h))

theorem length_first (r : Rune) (t : Text) : (first r t).2.length ≤ t.length :=
  length_extend ..

end Cluster

/-- The columns of a text that is shown in one row. -/
def Text.columns (t : Text) : Nat :=
  match _h : t.uncons? with
  | none => 0
  | some (r, rest) => (Cluster.first r rest).1.columns + columns (Cluster.first r rest).2
termination_by t.length
decreasing_by
  exact Nat.lt_of_le_of_lt (Cluster.length_first ..) (Text.length_of_uncons? _h)

end Scriptlet
