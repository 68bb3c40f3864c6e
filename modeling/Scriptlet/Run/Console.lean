import Scriptlet.Run.Dialogue
import Scriptlet.Run.Prompt

/-!
# Scriptlet.Run.Console — the other side of the dialogue

A console collects what a run says and answers what it asks.  Queued answers are used up first, and
may be echoed into the output; after them the provider is asked, if there is one.

A run looks again and again whether it has been cancelled.  What it finds is up to its context,
which may go by the lines and requests so far, like a host that cancels a run at some line or during
some request, or by the number of looks, like somebody outside who may cancel it at any time.
-/

namespace Scriptlet

/-- A line of output; `input` marks the echo of an answer. -/
structure Output where
  text : Text
  input : Bool
  deriving DecidableEq, Repr

/-- A request for input, with the prompt to show. -/
structure Request where
  name : Token
  prompt : Text
  deriving DecidableEq, Repr

/-- A source of answers.  What it replies may depend on all requests made to it so far, of which the
present one comes first. -/
structure Provider where
  reply : List Request → Answer

/-- The provider that gives the listed answers one after the other and then fails. -/
def Provider.ofAnswers (answers : List Answer) (exhausted : InputFault) : Provider where
  reply requests := answers.getD (requests.length - 1) (.error exhausted)

/-- Whether a run finds itself cancelled when it looks, after so many lines, counting echoes, so
many requests to the provider, and so many looks before. -/
structure Context where
  cancelled : (outputs requests looks : Nat) → Bool

/-- The run is not cancelled. -/
def Context.never : Context := ⟨fun _ _ _ => false⟩

/-- The run is cancelled from outside after so many looks, whatever it does between them. -/
def Context.after (n : Nat) : Context := ⟨fun _ _ looks => n ≤ looks⟩

/-- When a host cancels a run: as soon as so many lines are out, counting echoes, or as soon as the
provider has been called so often. -/
structure Cancellation where
  atOutput : Option Nat
  atRequest : Option Nat
  deriving DecidableEq, Repr

/-- The context that a host makes. -/
def Cancellation.context (plan : Cancellation) : Context where
  cancelled outputs requests _ :=
    plan.atOutput.any (· ≤ outputs) || plan.atRequest.any (· ≤ requests)

instance : Coe Cancellation Context := ⟨Cancellation.context⟩

/-- The state of a console during a run. -/
structure Console where
  /-- The prompt template. -/
  prompt : Text
  /-- Whether queued answers are echoed. -/
  echo : Bool
  queue : List Text
  provider : Option Provider
  /-- The requests made to the provider since it was installed, the latest first. -/
  asked : List Request
  /-- The lines of this run. -/
  outputs : Array Output
  /-- The requests made to the provider in this run. -/
  requests : Array Request
  /-- How often this run has looked whether it is cancelled. -/
  looks : Nat

namespace Console

/-- Take down a line of output. -/
def emit (c : Console) (o : Output) : Console := { c with outputs := c.outputs.push o }

/-- Answer a request for a variable. -/
def answer (c : Console) (name : Token) : Answer × Console :=
  let request : Request := ⟨name, Prompt.expand c.prompt name⟩
  match c.queue with
  | raw :: rest =>
    let c := { c with queue := rest }
    (.ok raw, if c.echo then c.emit ⟨request.prompt ++ raw, true⟩ else c)
  | [] =>
    match c.provider with
    | none => (.error .unavailable, c)
    | some p =>
      (p.reply (request :: c.asked),
        { c with asked := request :: c.asked, requests := c.requests.push request })

/-- Whether the run finds itself cancelled by now. -/
def cancelled (c : Console) (context : Context) : Bool :=
  context.cancelled c.outputs.size c.requests.size c.looks

/-- Take down that the run has looked. -/
def look (c : Console) : Console := { c with looks := c.looks + 1 }

end Console

/-- Hold a dialogue with a console.  The result is missing if the run was cut. -/
def Dialogue.play {ρ : Type} (context : Context) : Dialogue ρ → Console → Option (ρ × Console)
  | .done result, c => some (result, c)
  | .say text next, c => next.play context (c.emit ⟨text, false⟩)
  | .ask name next, c =>
    let (answer, c') := c.answer name
    (next answer).play context c'
  | .poll next, c => (next (c.cancelled context)).play context c.look
  | .cut, _ => none

end Scriptlet
