import Scriptlet.Text.Basic

/-!
# Scriptlet.Screen.Key — keys of a terminal
-/

namespace Scriptlet

/-- A key, or characters that arrive together as typed or pasted text. -/
inductive Key where
  | enter
  | escape
  | tab
  | backspace
  | delete
  | insert
  | left
  | right
  | up
  | down
  | pageUp
  | pageDown
  | toStart
  | toEnd
  | function (number : Nat)
  | typed (chars : List Char)
  | pasted (chars : List Char)
  | control (key : Key)
  | shift (key : Key)
  | alt (key : Key)
  deriving DecidableEq, Repr

namespace Key

/-- The key that closes a screen at any time. -/
def interrupt : Key := control (typed ['c'])

/-- A key as it is given by name.  Only some keys can be given so; everything else is typed text. -/
def ofName (name : String) : Key :=
  match name with
  | "enter" => enter
  | "ctrl+c" => interrupt
  | "esc" => escape
  | "backspace" => backspace
  | "delete" => delete
  | "left" => left
  | "right" => right
  | "up" => up
  | "down" => down
  | "pgup" => pageUp
  | "pgdown" => pageDown
  | "home" => toStart
  | "end" => toEnd
  | _ => typed name.toList

/-- The name of a key, which starts with the keys that are held down; typed text has itself for its
name. -/
def name : Key → String
  | enter => "enter"
  | escape => "esc"
  | tab => "tab"
  | backspace => "backspace"
  | delete => "delete"
  | insert => "insert"
  | left => "left"
  | right => "right"
  | up => "up"
  | down => "down"
  | pageUp => "pgup"
  | pageDown => "pgdown"
  | toStart => "home"
  | toEnd => "end"
  | function number => "f" ++ toString number
  | typed chars => String.ofList chars
  | pasted chars => "[" ++ String.ofList chars ++ "]"
  | control key => "ctrl+" ++ key.name
  | shift key => "shift+" ++ key.name
  | alt key => "alt+" ++ key.name

/-- The characters that a key types, also while the alt key is held down. -/
def chars : Key → List Char
  | typed chars | pasted chars => chars
  | alt key => key.chars
  | _ => []

/-- The key without the alt key. -/
def bare : Key → Key
  | alt key => key.bare
  | key => key

/-- Only the typed letter has the name by which a script is restarted. -/
theorem eq_typed_of_name {key : Key} (h : key.name = "r") : key = typed ['r'] := by
  have hchars : key.name.toList = ['r'] := congrArg String.toList h
  cases key with
  | typed chars =>
    rw [name, String.toList_ofList] at hchars
    rw [hchars]
  | _ => simp [name] at hchars

end Key

end Scriptlet
