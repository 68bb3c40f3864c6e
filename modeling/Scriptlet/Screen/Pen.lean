import Scriptlet.Text.Basic

/-!
# Scriptlet.Screen.Pen — how a terminal writes

A terminal writes with a pen that control sequences change: its colours, its weight and so on.
-/

namespace Scriptlet

/-- A colour of the palette of sixteen, of the palette of 256, or by its parts. -/
inductive Colour where
  | basic (n : Nat)
  | indexed (n : Nat)
  | parts (red green blue : Nat)
  deriving DecidableEq, Repr

/-- The attributes of a pen that are either on or off, by their numbers. -/
abbrev Attribute := Nat

/-- How a terminal writes. -/
structure Pen where
  /-- The attributes that are on, in ascending order. -/
  attributes : List Attribute := []
  /-- The shape of the line below the text; zero stands for none. -/
  underline : Nat := 0
  foreground : Option Colour := none
  background : Option Colour := none
  lineColour : Option Colour := none
  deriving DecidableEq, Repr

/-- A parameter of a control sequence; `joined` if a colon follows it. -/
structure Parameter where
  value : Nat
  joined : Bool
  deriving DecidableEq, Repr

namespace Pen

/-- Switch an attribute on or off. -/
def switch (p : Pen) (a : Attribute) (on : Bool) : Pen :=
  let others := p.attributes.filter (· != a)
  { p with attributes :=
      if on then others.filter (· < a) ++ a :: others.filter (a < ·) else others }

/-- Whether all of the parameters are joined to the next one, or none of them is. -/
def joinedAlike (joined : Bool) (ps : List Parameter) : Bool := ps.all (·.joined == joined)

/-- The colour by its parts after the number two, and how many parameters it takes in all. -/
def readParts (head kind : Parameter) (ps : List Parameter) : Option (Colour × Nat) :=
  let colour (r g b : Parameter) := Colour.parts (r.value % 256) (g.value % 256) (b.value % 256)
  if head.joined ∧ kind.joined then
    match ps with
    | space :: r :: g :: b :: more =>
      if joinedAlike true [space, r, g] then
        let extra := min 3 (if b.joined then (more.takeWhile (·.joined)).length + 1 else 0)
        some (colour r g b, 6 + extra)
      else if joinedAlike true [space, r] ∧ !g.joined then some (colour space r g, 5)
      else none
    | [r, g, b] => if joinedAlike true [r, g] ∧ !b.joined then some (colour r g b, 5) else none
    | _ => none
  else if !head.joined ∧ !kind.joined then
    match ps with
    | r :: g :: b :: _ => if joinedAlike false [r, g, b] then some (colour r g b, 5) else none
    | _ => none
  else none

/-- The colour that parameters from `head` on set, which may be none, and how many they are. -/
def readColour (head : Parameter) : List Parameter → Option (Option Colour × Nat)
  | [] => none
  | kind :: ps =>
    match kind.value with
    | 0 => some (none, 2)
    | 1 => some (some (.parts 0 0 0), 2)
    | 2 => (readParts head kind ps).map fun (c, n) => (some c, n)
    | 5 =>
      match ps with
      | n :: _ =>
        if head.joined = kind.joined ∧ !n.joined then some (some (.indexed (n.value % 256)), 3)
        else none
      | [] => none
    | _ => none

/-- The effect of a parameter that needs no others. -/
def applyOne (p : Pen) (n : Nat) : Pen :=
  if n = 0 then {}
  else if n = 4 then { p with underline := 1 }
  else if n ≤ 9 then p.switch n true
  else if n = 22 then (p.switch 1 false).switch 2 false
  else if n = 23 then p.switch 3 false
  else if n = 24 then { p with underline := 0 }
  else if n = 25 then (p.switch 5 false).switch 6 false
  else if 27 ≤ n ∧ n ≤ 29 then p.switch (n - 20) false
  else if 30 ≤ n ∧ n ≤ 37 then { p with foreground := some (.basic (n - 30)) }
  else if n = 39 then { p with foreground := none }
  else if 40 ≤ n ∧ n ≤ 47 then { p with background := some (.basic (n - 40)) }
  else if n = 49 then { p with background := none }
  else if n = 59 then { p with lineColour := none }
  else if 90 ≤ n ∧ n ≤ 97 then { p with foreground := some (.basic (n - 82)) }
  else if 100 ≤ n ∧ n ≤ 107 then { p with background := some (.basic (n - 92)) }
  else p

/-- The effect of the first parameter, and how many parameters it takes. -/
def applyHead (p : Pen) (head : Parameter) (ps : List Parameter) : Pen × Nat :=
  if head.value = 4 ∧ head.joined then
    match ps with
    | shape :: _ => if shape.value ≤ 5 then ({ p with underline := shape.value }, 2) else (p, 1)
    | [] => (p.applyOne 4, 1)
  else if head.value = 38 ∨ head.value = 48 ∨ head.value = 58 then
    match readColour head ps with
    | none => (p, 1)
    | some (c, n) =>
      if head.value = 38 then ({ p with foreground := c }, n)
      else if head.value = 48 then ({ p with background := c }, n)
      else ({ p with lineColour := c }, n)
  else (p.applyOne head.value, 1)

/-- The effect of parameters one after the other; as many steps as there are parameters are
enough. -/
def applyAll : Nat → Pen → List Parameter → Pen
  | _, p, [] => p
  | 0, p, _ => p
  | n + 1, p, head :: ps =>
    let (p', count) := p.applyHead head ps
    applyAll n p' (ps.drop (count - 1))

/-- The effect of a control sequence; without parameters it resets the pen. -/
def apply (p : Pen) (ps : List Parameter) : Pen := if ps = [] then {} else applyAll ps.length p ps

/-- Whether spaces are seen when written with the pen. -/
def marksSpaces (p : Pen) : Bool :=
  p.attributes.contains 7 || p.background.isSome || p.underline != 0

/-- The parameters that set a colour, where `base` is the first number of the palette of sixteen and
`extended` introduces the others. -/
def colourCode (base extended : Nat) : Colour → Text
  | .basic n => Text.ofNat (if n < 8 then base + n else base + 52 + n)
  | .indexed n => Text.ofNat extended ++ utf8 ";5;" ++ Text.ofNat n
  | .parts r g b =>
    Text.ofNat extended ++ utf8 ";2;" ++ Text.ofNat r ++ utf8 ";" ++ Text.ofNat g ++ utf8 ";" ++
      Text.ofNat b

/-- The control sequence that resets the pen. -/
def reset : Text := utf8 "\x1b[m"

/-- The control sequence that takes up the pen. -/
def sequence (p : Pen) : Text :=
  let underline := match p.underline with
    | 0 => []
    | 1 => [utf8 "4"]
    | shape => [utf8 "4:" ++ Text.ofNat shape]
  let colours := (p.foreground.map (colourCode 30 38)).toList ++
    (p.background.map (colourCode 40 48)).toList ++ (p.lineColour.map (colourCode 58 58)).toList
  utf8 "\x1b[" ++ Text.join (utf8 ";") (p.attributes.map Text.ofNat ++ underline ++ colours) ++
    utf8 "m"

end Pen

end Scriptlet
