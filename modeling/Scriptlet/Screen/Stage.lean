import Scriptlet.Host.Producer
import Scriptlet.Screen.Basic

/-!
# Scriptlet.Screen.Stage — a screen together with its runs

The stage carries out what the screen asks for.  It keeps all runs ever started, hands the answers
to those who wait for them, and feeds events back to the screen until a request is pending or there
is nothing left to do.
-/

namespace Scriptlet

/-- A screen with the runs it started. -/
structure Stage where
  script : Script
  screen : Screen
  /-- The runs by their numbers. -/
  runs : List Producer := []
  /-- Answers to guests that have not been collected. -/
  answers : List Text := []
  /-- Whether the screen has been closed. -/
  closed : Bool := false

namespace Stage

/-- A screen for a script, before its first message. -/
def ofScript (script : Script) : Stage := { script, screen := { path := script.path } }

/-- Change one of the runs. -/
def modifyRun (s : Stage) (run : RunId) (f : Producer → Producer) : Stage :=
  { s with runs := s.runs.modify run f }

/-- Carry out an effect. -/
def perform (s : Stage) : Effect → Stage
  | .answer (.run id) text => s.modifyRun id (·.answer text)
  | .answer .guest text => { s with answers := s.answers ++ [text] }
  | .cancel id => s.modifyRun id fun _ => .over

/-- Let the screen react to a message. -/
def accept (s : Stage) (message : Message) : Stage × Option Command :=
  let r := s.screen.update message
  (r.effects.foldl perform { s with screen := r.screen }, r.command)

/-- The message that reports an event of a run. -/
def report (run : RunId) : Event → Message
  | .output o => .output o.text
  | .request r => .request r (.run run)
  | .done (.ok ()) => .done none
  | .done (.error e) => .done (some (Event.errorMessage e))

/-- Carry out a command: the message that comes of it, if one does.  Runs are followed for `n`
nested steps. -/
def execute (s : Stage) (n : Nat) : Command → Stage × Option Message
  | .start =>
    ({ s with runs := s.runs ++ [.ofScript s.script n] }, some (.started (some s.runs.length)))
  | .await run =>
    match (s.runs[run]?).bind (·.next? (Prompt.template s.script.settings.prompt)) with
    | none => (s, none)
    | some (event, p) => (s.modifyRun run fun _ => p, some (report run event))
  | .quit => ({ s with closed := true }, none)

/-- Carry out a command and all that follow from it, but none while a request is pending.  Gives up
after `n` commands. -/
def settle : Nat → Stage → Option Command → Option Stage
  | _, s, none => some s
  | 0, _, some _ => none
  | n + 1, s, some command =>
    if s.screen.pending.isSome ∧ command ≠ .quit then some s
    else match s.execute n command with
      | (s, none) => some s
      | (s, some message) =>
        let (s, next) := s.accept message
        settle n s next

/-- Start the first run. -/
def start (s : Stage) (n : Nat) : Option Stage := settle n s (some .start)

/-- Let a message take its course. -/
def deliver (s : Stage) (n : Nat) (message : Message) : Option Stage :=
  let (s, command) := s.accept message
  settle n s command

/-- The answers to guests, which are thereby collected. -/
def collect (s : Stage) : List Text × Stage := (s.answers, { s with answers := [] })

end Stage

end Scriptlet
