import Scriptlet.Host.Events

/-!
# Scriptlet.Host.Producer — a run that hands out its events one at a time
-/

namespace Scriptlet

/-- A run between two events. -/
inductive Producer where
  /-- The script cannot be run, which has not been reported yet. -/
  | refused (error : ScriptError)
  | running (rest : Dialogue Report)
  /-- The run waits for the answer to its request. -/
  | waiting (next : Answer → Dialogue Report)
  /-- There are no more events. -/
  | over

namespace Producer

/-- A run of a script that has just begun, to be followed for a number of nested steps. -/
def ofScript (script : Script) (n : Nat) : Producer :=
  match script.program with
  | .error e => .refused e
  | .ok program => .running (program.dialogue script.settings.returnMode n)

/-- The first event of a dialogue, and the run after it. -/
def follow (prompt : Text) : Dialogue Report → Option (Event × Producer)
  | .done report => some (.done (report.result.mapError .run), .over)
  | .say text next => some (.output ⟨text, false⟩, .running next)
  | .ask name next => some (.request ⟨name, Prompt.expand prompt name⟩, .waiting next)
  | .poll next => follow prompt (next false)
  | .cut => none

/-- The next event and the run after it; none while the run waits and when it is over. -/
def next? (prompt : Text) : Producer → Option (Event × Producer)
  | .refused e => some (.done (.error (.script e)), .over)
  | .running rest => follow prompt rest
  | .waiting _ | .over => none

/-- Answer the request of a run that waits. -/
def answer (text : Text) : Producer → Producer
  | .waiting next => .running (next (.ok text))
  | p => p

end Producer

end Scriptlet
