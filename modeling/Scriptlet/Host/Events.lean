import Scriptlet.Host.Script
import Scriptlet.Run.Console

/-!
# Scriptlet.Host.Events — a run as a list of events

A front end with an event loop follows a run through events: lines of output, requests for input,
and in the end the result.
-/

namespace Scriptlet

/-- What happens in a run. -/
inductive Event where
  | output (o : Output)
  | request (r : Request)
  | done (result : Except HostError Unit)

namespace Events

/-- The events of a dialogue whose requests get the given answers, as far as these go. -/
def ofDialogue (prompt : Text) : Dialogue Report → List Text → Array Event → Option (Array Event)
  | .done report, _, events => some (events.push (.done (report.result.mapError .run)))
  | .say text next, answers, events =>
    ofDialogue prompt next answers (events.push (.output ⟨text, false⟩))
  | .ask name next, answers, events =>
    let events := events.push (.request ⟨name, Prompt.expand prompt name⟩)
    match answers with
    | [] => some events
    | raw :: answers => ofDialogue prompt (next (.ok raw)) answers events
  | .poll next, answers, events => ofDialogue prompt (next false) answers events
  | .cut, _, _ => none

/-- The events of a script whose requests get the given answers.  They end with the result of the
run, or with a request for which there is no answer left. -/
def ofScript (script : Script) (answers : List Text) (n : Nat) : Option (List Event) :=
  match script.program with
  | .error e => some [.done (.error (.script e))]
  | .ok program =>
    (ofDialogue (Prompt.template script.settings.prompt)
      (program.dialogue script.settings.returnMode n) answers #[]).map Array.toList

end Events

/-- The complaint about a script whose run was followed through events. -/
def Event.errorMessage : HostError → Text
  | .script e => e.message
  | .run e => e.message

end Scriptlet
