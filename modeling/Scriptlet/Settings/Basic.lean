import Scriptlet.Run.Session

/-!
# Scriptlet.Settings.Basic — how scripts are run

Three settings: what a `return` inside control flow does, how a value is asked for, and which front
end shows the run.
-/

namespace Scriptlet

/-- The front end of a run. -/
inductive FrontEnd where
  /-- The full screen on a terminal, plain text elsewhere. -/
  | auto
  | plain
  | tui
  deriving DecidableEq, Repr

namespace FrontEnd

def name : FrontEnd → String
  | auto => "auto"
  | plain => "plain"
  | tui => "tui"

def all : List FrontEnd := [auto, plain, tui]

/-- The front end that a word names. -/
def ofWord? (word : Text) : Option FrontEnd := all.find? fun m => utf8 m.name == word

end FrontEnd

/-- The settings of a run. -/
structure Settings where
  returnMode : ReturnMode
  /-- The prompt template. -/
  prompt : Text
  frontEnd : FrontEnd
  deriving DecidableEq, Repr

/-- A setting that names nothing known. -/
inductive SettingError where
  | unknownReturnMode (raw : Text)
  | unknownFrontEnd (raw : Text)
  deriving DecidableEq, Repr

/-- The complaint about a setting. -/
def SettingError.message : SettingError → Text
  | unknownReturnMode raw => utf8 "config: " ++ ReturnMode.unknownMessage raw
  | unknownFrontEnd raw =>
    utf8 "config: unknown mode " ++ raw.quote ++ utf8 " (want auto|plain|tui)"

namespace Settings

/-- The settings that hold when nothing is said. -/
def standard : Settings := ⟨.discard, Prompt.standard, .auto⟩

def setReturnMode (s : Settings) (raw : Text) : Except SettingError Settings :=
  match ReturnMode.parse? raw with
  | some returnMode => .ok { s with returnMode }
  | none => .error (.unknownReturnMode raw)

/-- Choose the front end; a blank choice changes nothing. -/
def setFrontEnd (s : Settings) (raw : Text) : Except SettingError Settings :=
  let word := raw.optionWord
  if word = [] then .ok s
  else match FrontEnd.ofWord? word with
    | some frontEnd => .ok { s with frontEnd }
    | none => .error (.unknownFrontEnd raw)

/-- The session with the settings that concern it. -/
def apply (s : Settings) (session : Session) : Session :=
  (session.setReturnMode s.returnMode).setPrompt s.prompt

end Settings

end Scriptlet
