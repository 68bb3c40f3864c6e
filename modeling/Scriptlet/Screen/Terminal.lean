import Scriptlet.Text.Columns

/-!
# Scriptlet.Screen.Terminal — which bytes a terminal shows

A terminal does not show control sequences.  It reads a text byte by byte and knows at each byte
whether it is inside of such a sequence.  Of the rest, a printable ASCII character takes one column,
and what begins with any other character is shown cluster by cluster.
-/

namespace Scriptlet

/-- Where a terminal is inside of a control sequence, or outside of all. -/
inductive TerminalState where
  | ground
  | escape
  | escapeIntermediate
  | controlEntry
  | controlParameter
  | controlIntermediate
  | deviceEntry
  | deviceParameter
  | deviceIntermediate
  | deviceString
  /-- A command to the operating system. -/
  | systemString
  /-- Any other string that is not shown. -/
  | ignoredString
  deriving DecidableEq, Repr

namespace TerminalState

/-- The control characters that do not end a sequence. -/
def isQuiet (b : UInt8) : Bool := b ≤ 0x17 || b == 0x19 || (0x1C ≤ b && b ≤ 0x1F)

/-- Whether a byte lies between two others. -/
def among (first last b : UInt8) : Bool := first ≤ b && b ≤ last

/-- Where a byte leads that means something of its own in a state. -/
def inside? (s : TerminalState) (b : UInt8) : Option TerminalState :=
  match s with
  | ground => none
  | escape =>
    if isQuiet b || b == 0x7F then some escape
    else if among 0x20 0x2F b then some escapeIntermediate
    else if b == 0x5B then some controlEntry
    else if b == 0x50 then some deviceEntry
    else if b == 0x5D then some systemString
    else if b == 0x58 || b == 0x5E || b == 0x5F then some ignoredString
    else none
  | escapeIntermediate =>
    if isQuiet b || b == 0x7F || among 0x20 0x2F b then some escapeIntermediate else none
  | controlEntry =>
    if isQuiet b || b == 0x7F then some controlEntry
    else if among 0x20 0x2F b then some controlIntermediate
    else if among 0x30 0x3F b then some controlParameter
    else none
  | controlParameter =>
    if isQuiet b || b == 0x7F || among 0x30 0x3F b then some controlParameter
    else if among 0x20 0x2F b then some controlIntermediate
    else none
  | controlIntermediate =>
    if isQuiet b || b == 0x7F || among 0x20 0x2F b then some controlIntermediate else none
  | deviceEntry =>
    if among 0x08 0x0D b || b == 0x1B || among 0x40 0x7E b then some deviceString
    else if isQuiet b || b == 0x7F then some deviceEntry
    else if among 0x20 0x2F b then some deviceIntermediate
    else if among 0x30 0x3F b then some deviceParameter
    else none
  | deviceParameter =>
    if isQuiet b || b == 0x7F || among 0x30 0x3F b then some deviceParameter
    else if among 0x20 0x2F b then some deviceIntermediate
    else if among 0x40 0x7E b then some deviceString
    else none
  | deviceIntermediate =>
    if isQuiet b || b == 0x7F || among 0x20 0x2F b then some deviceIntermediate
    else if among 0x30 0x7E b then some deviceString
    else none
  | deviceString =>
    if b == 0x1B then some escape
    else if b == 0x9C || b == 0x18 || b == 0x1A then some ground
    else some deviceString
  | systemString =>
    if b == 0x1B then some escape
    else if b == 0x07 || b == 0x9C || b == 0x18 || b == 0x1A then some ground
    else some systemString
  | ignoredString => if isQuiet b || among 0x20 0x7F b then some ignoredString else none

/-- Where a byte leads in any other case; nowhere if a character beyond ASCII begins with it. -/
def outside? (b : UInt8) : Option TerminalState :=
  if b == 0x1B then some escape
  else if b == 0x90 then some deviceEntry
  else if b == 0x9B then some controlEntry
  else if b == 0x9D then some systemString
  else if b == 0x98 || b == 0x9E || b == 0x9F then some ignoredString
  else if among 0xC2 0xF4 b then none
  else some ground

/-- Where a byte leads; nowhere if a character beyond ASCII begins with it. -/
def next? (s : TerminalState) (b : UInt8) : Option TerminalState :=
  match s.inside? b with
  | some s' => some s'
  | none => outside? b

/-- Whether a byte is shown. -/
def shows (s : TerminalState) (b : UInt8) : Bool := s = ground && among 0x20 0x7E b

/-- Whether a byte is a control character that takes effect at once. -/
def executes (s : TerminalState) (b : UInt8) : Bool :=
  match s.inside? b with
  | some _ =>
    isQuiet b && [escape, escapeIntermediate, controlEntry, controlParameter,
      controlIntermediate].contains s
  | none =>
    b == 0x18 || b == 0x1A || among 0x80 0x8F b || among 0x91 0x97 b || b == 0x99 || b == 0x9A ||
      b == 0x9C || (s = ground && (isQuiet b || b == 0x7F))

end TerminalState

namespace Terminal

/-- The columns that a text takes on a terminal in a given state. -/
def columnsFrom (s : TerminalState) (t : Text) : Nat :=
  match t with
  | [] => 0
  | b :: t =>
    match s.next? b with
    | some s' => (if s.shows b then 1 else 0) + columnsFrom s' t
    | none =>
      match _h : Text.uncons? (b :: t) with
      | none => 0
      | some (r, rest) =>
        (Cluster.first r rest).1.columns + columnsFrom .ground (Cluster.first r rest).2
termination_by t.length
decreasing_by
  · exact Nat.lt_succ_self _
  · exact Nat.lt_of_le_of_lt (Cluster.length_first ..) (Text.length_of_uncons? _h)

/-- The columns that a row takes. -/
def columns (row : Text) : Nat := columnsFrom .ground row

/-- A row cut off after so many columns, given how many of them are used up.  Once a character does
not fit, only control sequences are kept. -/
def truncateFrom (width : Nat) (s : TerminalState) (used : Nat) (full : Bool) (t : Text) : Text :=
  match t with
  | [] => []
  | b :: t =>
    match s.next? b with
    | some s' =>
      let full' := full || (s.shows b && used == width)
      if full' && (s.shows b || s.executes b) then truncateFrom width s used full' t
      else b :: truncateFrom width s' (if s.shows b then used + 1 else used) full' t
    | none =>
      match _h : Text.uncons? (b :: t) with
      | none => []
      | some (r, rest) =>
        let (cluster, _) := Cluster.first r rest
        if full || width < used + cluster.columns then
          truncateFrom width s used true (Cluster.first r rest).2
        else
          cluster.text ++
            truncateFrom width .ground (used + cluster.columns) false (Cluster.first r rest).2
termination_by t.length
decreasing_by
  · exact Nat.lt_succ_self _
  · exact Nat.lt_succ_self _
  · exact Nat.lt_of_le_of_lt (Cluster.length_first ..) (Text.length_of_uncons? _h)
  · exact Nat.lt_of_le_of_lt (Cluster.length_first ..) (Text.length_of_uncons? _h)

/-- A row cut off after so many columns. -/
def truncate (width : Nat) (row : Text) : Text :=
  if columns row ≤ width then row else truncateFrom width .ground 0 false row

end Terminal

end Scriptlet
