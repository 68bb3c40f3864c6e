import Scriptlet.Run.Console
import Scriptlet.Run.Interpreter

/-!
# Scriptlet.Run.Session — a program with its settings, run any number of times

Every run starts with no variables and no functions.  What a session keeps from one run to the next
are the settings, the queue of answers and the history of its provider.
-/

namespace Scriptlet

/-- A program and all that its runs depend on, and what the last run left behind. -/
structure Session where
  program : Program
  mode : ReturnMode
  /-- The prompt template. -/
  prompt : Text
  echo : Bool
  queue : List Text
  provider : Option Provider
  /-- The requests made to the provider since it was installed, the latest first. -/
  asked : List Request
  globals : Frame
  functions : FunctionTable

/-- What a run did: how it ended, the lines it put out and the requests it made to the provider. -/
structure RunRecord where
  result : Except RunError Unit
  outputs : List Output
  requests : List Request

/-- The lines that a run returns: all of them on success, and none on failure. -/
def RunRecord.returned (r : RunRecord) : Except RunError (List Output) :=
  r.result.map fun _ => r.outputs

namespace Session

/-- A session before its first run. -/
def new (p : Program) : Session where
  program := p
  mode := .discard
  prompt := Prompt.standard
  echo := false
  queue := []
  provider := none
  asked := []
  globals := ∅
  functions := ∅

/-- The complaint about a missing program. -/
def missingProgram : Text := utf8 "nil program"

/-- A session for a program that may be missing. -/
def ofProgram? : Option Program → Except Text Session
  | some p => .ok (new p)
  | none => .error missingProgram

def setReturnMode (s : Session) (mode : ReturnMode) : Session := { s with mode }

def setPrompt (s : Session) (setting : Text) : Session :=
  { s with prompt := Prompt.template setting }

def setEcho (s : Session) (echo : Bool) : Session := { s with echo }

/-- Add answers at the end of the queue. -/
def enqueue (s : Session) (answers : List Text) : Session := { s with queue := s.queue ++ answers }

/-- Install a provider, which has not been asked anything yet. -/
def setProvider (s : Session) (provider : Option Provider) : Session :=
  { s with provider, asked := [] }

/-- The console at the start of a run. -/
def console (s : Session) : Console where
  prompt := s.prompt
  echo := s.echo
  queue := s.queue
  provider := s.provider
  asked := s.asked
  outputs := #[]
  requests := #[]
  looks := 0

/-- Run the program, following it for a number of nested steps. -/
def run (s : Session) (context : Context) (n : Nat) : Option (RunRecord × Session) :=
  ((s.program.dialogue s.mode n).play context s.console).map fun (report, c) =>
    (⟨report.result, c.outputs.toList, c.requests.toList⟩,
      { s with
        queue := c.queue
        asked := c.asked
        globals := report.globals
        functions := report.functions })

end Session

end Scriptlet
