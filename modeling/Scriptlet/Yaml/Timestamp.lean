import Scriptlet.Yaml.Number

/-!
# Scriptlet.Yaml.Timestamp — which plain scalars are dates, with or without a time
-/

namespace Scriptlet.Yaml

/-- What is left of a text after a part of a timestamp, if it begins with one. -/
abbrev TimePart (α : Type) := StateT (List Char) Option α

namespace TimePart

/-- The given character. -/
def mark (x : Char) : TimePart Unit := do
  match ← get with
  | c :: cs => if c = x then set cs else failure
  | [] => failure

/-- A number of one digit or two. -/
def number : TimePart Nat := do
  let digits := ((← get).take 2).takeWhile Char.isDigit
  let n ← digits? 10 digits
  set ((← get).drop digits.length)
  return n

/-- A number of so many digits. -/
def fixed (width : Nat) : TimePart Nat := do
  let digits := (← get).take width
  if digits.length ≠ width then failure
  let n ← digits? 10 digits
  set ((← get).drop width)
  return n

/-- A number of one digit or two that is at most `limit`. -/
def upTo (limit : Nat) : TimePart Unit := do
  if limit < (← number) then failure

/-- The number of days of a month. -/
def daysIn (year month : Nat) : Nat :=
  if month = 2 then if year % 4 = 0 ∧ (year % 100 ≠ 0 ∨ year % 400 = 0) then 29 else 28
  else if month ∈ [4, 6, 9, 11] then 30 else 31

/-- A date: four digits, and one or two each for the month and the day. -/
def date : TimePart Unit := do
  let year ← fixed 4
  mark '-'
  let month ← number
  mark '-'
  let day ← number
  if month = 0 ∨ 12 < month ∨ day = 0 ∨ daysIn year month < day then failure

/-- A fraction of a second, if there is one. -/
def fraction : TimePart Unit := do
  match ← get with
  | p :: d :: cs =>
    if (p = '.' ∨ p = ',') ∧ d.isDigit then set (cs.dropWhile Char.isDigit)
  | _ => pure ()

/-- A time of the day. -/
def time : TimePart Unit := do
  upTo 23
  mark ':'
  upTo 59
  mark ':'
  upTo 59
  fraction

/-- A time zone: the letter Z or the hours and minutes of an offset. -/
def zone : TimePart Unit := do
  match ← get with
  | 'Z' :: cs => set cs
  | sign :: cs =>
    if sign ≠ '+' ∧ sign ≠ '-' then failure
    set cs
    if 24 < (← fixed 2) then failure
    mark ':'
    if 60 < (← fixed 2) then failure
  | [] => failure

/-- White space, if there is any. -/
def spaces : TimePart Unit := modify (·.dropWhile (· == ' '))

/-- Whether a part is all of a text. -/
def matchesAll (p : TimePart Unit) (cs : List Char) : Bool :=
  (p cs).any fun (_, rest) => rest.isEmpty

end TimePart

open TimePart in
/-- Whether a text is a date, or a date and a time: with a zone after the letter T, without one
after a space. -/
def isTimestamp (cs : List Char) : Bool :=
  [do date; mark 'T'; time; zone,
   do date; mark 't'; time; zone,
   do date; mark ' '; spaces; time,
   date].any (matchesAll · cs)

end Scriptlet.Yaml
