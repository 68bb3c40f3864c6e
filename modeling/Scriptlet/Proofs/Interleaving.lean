import Mathlib.Logic.Relation
import Scriptlet.Screen.Stage

/-!
# Scriptlet.Proofs.Interleaving — a screen, its commands and its runs side by side

A `Stage` carries out a command before it takes the next message.  In a `Theatre` nobody waits:
keys come while commands are in flight, commands come back in any order, and the runs work in the
background, each with a channel on which it sends its events.  `Theatre.Step` is one step of any of
these, and `Theatre.Reachable` says which states the steps lead to.  Main statements: the next event
of a run comes of its steps (`Producer.exists_step_of_next?`), and what holds at the opening and is
kept by every step holds ever after (`Theatre.Reachable.invariant`).
-/

namespace Scriptlet

/-- The text of an event that is a line of output. -/
def Event.line? : Event → Option Text
  | .output o => some o.text
  | .request _ | .done _ => none

/-! ### One run -/

/-- One step of a run: it sends an event, or it works in silence.  A run that has been cancelled may
send what it has to say or drop it, and need not wait for answers. -/
inductive Producer.Step (prompt : Text) (cancelled : Bool) :
    Producer → Option Event → Producer → Prop where
  | refuse (e : ScriptError) :
    Step prompt cancelled (.refused e) (some (.done (.error (.script e)))) .over
  | poll (next : Bool → Dialogue Report) :
    Step prompt cancelled (.running (.poll next)) none (.running (next cancelled))
  | say (text : Text) (next : Dialogue Report) :
    Step prompt cancelled (.running (.say text next)) (some (.output ⟨text, false⟩)) (.running next)
  | ask (name : Token) (next : Answer → Dialogue Report) :
    Step prompt cancelled (.running (.ask name next))
      (some (.request ⟨name, Prompt.expand prompt name⟩)) (.waiting next)
  | finish (report : Report) :
    Step prompt cancelled (.running (.done report)) (some (.done (report.result.mapError .run))) .over
  | dropOutput (h : cancelled = true) (text : Text) (next : Dialogue Report) :
    Step prompt cancelled (.running (.say text next)) none (.running next)
  | dropRequest (h : cancelled = true) (name : Token) (next : Answer → Dialogue Report) :
    Step prompt cancelled (.running (.ask name next)) none
      (.running (next (.error (.failed RunError.canceled.message))))
  | giveUp (h : cancelled = true) (next : Answer → Dialogue Report) :
    Step prompt cancelled (.waiting next) none
      (.running (next (.error (.failed RunError.canceled.message))))
  | dropResult (h : cancelled = true) (report : Report) :
    Step prompt cancelled (.running (.done report)) none .over

theorem Producer.Step.ne_over {prompt : Text} {cancelled : Bool} {p p' : Producer}
    {sent : Option Event} (h : p.Step prompt cancelled sent p') : p ≠ .over := by
  cases h <;> exact Producer.noConfusion

/-- The result is the last event. -/
theorem Producer.Step.over_of_done {prompt : Text} {cancelled : Bool} {p p' : Producer}
    {result : Except HostError Unit} (h : p.Step prompt cancelled (some (.done result)) p') :
    p' = .over := by
  cases h <;> rfl

/-- The next event of a run is sent after some work in silence. -/
theorem Producer.exists_step_of_next? {prompt : Text} {p p' : Producer} {event : Event}
    (h : p.next? prompt = some (event, p')) :
    ∃ q, Relation.ReflTransGen (Producer.Step prompt false · none ·) p q ∧
      q.Step prompt false (some event) p' := by
  cases p with
  | refused e =>
    cases h
    exact ⟨_, .refl, .refuse e⟩
  | running rest =>
    rw [next?] at h
    fun_induction follow prompt rest with
    | case1 report =>
      cases h
      exact ⟨_, .refl, .finish report⟩
    | case2 text next =>
      cases h
      exact ⟨_, .refl, .say text next⟩
    | case3 name next =>
      cases h
      exact ⟨_, .refl, .ask name next⟩
    | case4 next ih =>
      obtain ⟨q, hquiet, hsend⟩ := ih h
      exact ⟨q, .head (.poll next) hquiet, hsend⟩
    | case5 => cases h
  | _ => cases h

/-- What a run still has to do, and what has become of the events it sent. -/
structure Feed where
  producer : Producer
  /-- The events that have been sent and wait to be received, the oldest first. -/
  channel : List Event := []
  /-- The events that have been received, the oldest first. -/
  received : List Event := []

/-- All events that a run sent, the oldest first. -/
def Feed.sent (f : Feed) : List Event := f.received ++ f.channel

/-- Nothing happens in a run after its result. -/
def Feed.Sound (f : Feed) : Prop := ∀ result, .done result ∈ f.sent → f.producer = .over

/-- A run in the background. -/
structure Worker extends Feed where
  cancelled : Bool := false
  /-- The answer to the last request, until the run takes it. -/
  reply : Option Text := none

namespace Worker

/-- How many events a channel holds. -/
def channelCapacity : Nat := 256

/-- A run is live until it is done or cancelled. -/
def Live (w : Worker) : Prop := w.producer ≠ .over ∧ w.cancelled = false

/-- One step of a run in the background.  An event is sent when the channel has room for it. -/
inductive Step (prompt : Text) : Worker → Worker → Prop where
  | work {w : Worker} {p : Producer} (h : w.producer.Step prompt w.cancelled none p) :
    Step prompt w { w with producer := p }
  | send {w : Worker} {p : Producer} {event : Event}
      (h : w.producer.Step prompt w.cancelled (some event) p)
      (hroom : w.channel.length < channelCapacity) :
    Step prompt w { w with producer := p, channel := w.channel ++ [event], reply := none }
  | hear {w : Worker} {next : Answer → Dialogue Report} {text : Text}
      (hwaiting : w.producer = .waiting next) (hreply : w.reply = some text) :
    Step prompt w { w with producer := w.producer.answer text, reply := none }

variable {prompt : Text} {w w' : Worker}

theorem Step.ne_over (h : Step prompt w w') : w.producer ≠ .over := by
  cases h with
  | work h => exact h.ne_over
  | send h _ => exact h.ne_over
  | hear hwaiting _ =>
    rw [hwaiting]
    exact Producer.noConfusion

theorem Step.received (h : Step prompt w w') : w'.received = w.received := by
  cases h <;> rfl

theorem Step.sound (h : Step prompt w w') (hw : w.Sound) : w'.Sound := by
  -- A run that still takes steps has not sent its result.
  have hopen : ∀ result, Event.done result ∉ w.sent := fun result hmem => h.ne_over (hw result hmem)
  intro result hmem
  cases h with
  | work _ => exact absurd hmem (hopen result)
  | hear _ _ => exact absurd hmem (hopen result)
  | @send _ event hsend _ =>
    have hmem : .done result ∈ w.sent ∨ .done result = event := by
      simpa [Feed.sent, or_assoc] using hmem
    obtain hmem | rfl := hmem
    · exact absurd hmem (hopen result)
    · exact hsend.over_of_done

end Worker

/-! ### The screen among its commands and runs -/

/-- A command that is being carried out, or the message it came back with. -/
inductive Flight where
  | start
  | started (run : RunId)
  | await (run : RunId)
  | event (run : RunId) (event : Event)

namespace Flight

/-- What a command sets in flight. -/
def ofCommand : Option Command → List Flight
  | some .start => [.start]
  | some (.await run) => [.await run]
  | some .quit | none => []

/-- Whether a run is being started. -/
def isStart : Flight → Bool
  | start | started _ => true
  | await _ | event _ _ => false

/-- Whether an event is being waited for. -/
def isAwait : Flight → Bool
  | await _ | event _ _ => true
  | start | started _ => false

end Flight

/-- A screen with its runs and the commands in flight. -/
structure Theatre where
  script : Script
  screen : Screen
  flights : List Flight
  /-- The runs by their numbers. -/
  workers : List Worker := []
  /-- The lines of output that were added since the last restart, each with the run it came from. -/
  shown : List (RunId × Text) := []

/-- Carry out an effect on the runs. -/
def Effect.perform (workers : List Worker) : Effect → List Worker
  | .answer (.run id) text => workers.modify id fun w => { w with reply := some text }
  | .answer .guest _ => workers
  | .cancel id => workers.modify id fun w => { w with cancelled := true }

/-- What may happen in a theatre.  All that is not done by hand is done in the background. -/
inductive Occurrence where
  | key (key : Key)
  | resize (width height : Nat)
  | background

namespace Theatre

/-- A theatre before its first message: the first run is being started. -/
def opening (script : Script) : Theatre :=
  { script, screen := { path := script.path }, flights := [.start] }

/-- The template for the prompts of the runs. -/
def prompt (t : Theatre) : Text := Prompt.template t.script.settings.prompt

/-- Let the screen react to a message. -/
def react (t : Theatre) (message : Message) : Theatre :=
  let r := t.screen.update message
  { t with
    screen := r.screen
    workers := r.effects.foldl Effect.perform t.workers
    flights := t.flights ++ Flight.ofCommand r.command
    shown := if r.command = some .start then [] else t.shown }

/-- Note the line that an event of a run adds. -/
def note (t : Theatre) (run : RunId) (event : Event) : Theatre :=
  { t with shown := t.shown ++ event.line?.toList.map (run, ·) }

/-- One step of a theatre.  Whatever is in flight may be the next to arrive. -/
inductive Step : Theatre → Occurrence → Theatre → Prop where
  | key {t : Theatre} (key : Key) : Step t (.key key) (t.react (.key key))
  | resize {t : Theatre} (width height : Nat) :
    Step t (.resize width height) (t.react (.resize width height))
  | launch {t : Theatre} {before after : List Flight} (n : Nat)
      (hflights : t.flights = before ++ .start :: after) :
    Step t .background { t with
      flights := before ++ .started t.workers.length :: after
      workers := t.workers ++ [{ producer := .ofScript t.script n }] }
  | begin {t : Theatre} {before after : List Flight} {run : RunId}
      (hflights : t.flights = before ++ .started run :: after) :
    Step t .background ({ t with flights := before ++ after }.react (.started (some run)))
  | receive {t : Theatre} {before after : List Flight} {run : RunId} {w : Worker} {event : Event}
      {rest : List Event} (hflights : t.flights = before ++ .await run :: after)
      (hworker : t.workers[run]? = some w) (hchannel : w.channel = event :: rest) :
    Step t .background { t with
      flights := before ++ .event run event :: after
      workers := t.workers.set run { w with channel := rest, received := w.received ++ [event] } }
  | close {t : Theatre} {before after : List Flight} {run : RunId} {w : Worker}
      (hflights : t.flights = before ++ .await run :: after) (hworker : t.workers[run]? = some w)
      (hover : w.producer = .over) (hchannel : w.channel = []) :
    Step t .background { t with flights := before ++ after }
  | report {t : Theatre} {before after : List Flight} {run : RunId} {event : Event}
      (hflights : t.flights = before ++ .event run event :: after) :
    Step t .background
      (({ t with flights := before ++ after }.react (Stage.report run event)).note run event)
  | work {t : Theatre} {run : RunId} {w w' : Worker} (hworker : t.workers[run]? = some w)
      (hstep : w.Step t.prompt w') :
    Step t .background { t with workers := t.workers.set run w' }

/-- The states that a theatre for a script comes to when only allowed occurrences happen. -/
inductive Reachable (script : Script) (allowed : Theatre → Occurrence → Prop) : Theatre → Prop where
  | opening : Reachable script allowed (opening script)
  | step {t t' : Theatre} {o : Occurrence} (h : Reachable script allowed t) (hallowed : allowed t o)
      (hstep : t.Step o t') : Reachable script allowed t'

/-- What holds at the opening and is kept by every allowed step holds ever after. -/
theorem Reachable.invariant {script : Script} {allowed : Theatre → Occurrence → Prop}
    {P : Theatre → Prop} (hopening : P (Theatre.opening script))
    (hkeeps : ∀ {t t' o}, P t → allowed t o → t.Step o t' → P t') {t : Theatre}
    (h : Reachable script allowed t) : P t := by
  induction h with
  | opening => exact hopening
  | step _ hallowed hstep ih => exact hkeeps ih hallowed hstep

/-- The runs without what others do to them. -/
def feeds (t : Theatre) : List Feed := t.workers.map (·.toFeed)

theorem map_toFeed_modify {f : Worker → Worker} (hf : ∀ w, (f w).toFeed = w.toFeed)
    (workers : List Worker) (i : Nat) :
    (workers.modify i f).map (·.toFeed) = workers.map (·.toFeed) := by
  refine List.ext_getElem? fun j => ?_
  rw [List.getElem?_map, List.getElem?_map, List.getElem?_modify]
  cases workers[j]? with
  | none => rfl
  | some w =>
    dsimp only [Functor.map, Option.map]
    split
    · rw [hf]
    · rfl

/-- Answers and cancellations wait for the run to notice them. -/
theorem map_toFeed_perform (effects : List Effect) (workers : List Worker) :
    (effects.foldl Effect.perform workers).map (·.toFeed) = workers.map (·.toFeed) := by
  induction effects generalizing workers with
  | nil => rfl
  | cons effect effects ih =>
    rw [List.foldl_cons, ih]
    match effect with
    | .answer (.run id) text =>
      exact map_toFeed_modify (f := fun w => { w with reply := some text }) (fun _ => rfl) workers id
    | .answer .guest _ => rfl
    | .cancel id =>
      exact map_toFeed_modify (f := fun w => { w with cancelled := true }) (fun _ => rfl) workers id

@[simp]
theorem feeds_react (t : Theatre) (message : Message) : (t.react message).feeds = t.feeds :=
  map_toFeed_perform _ _

end Theatre

end Scriptlet
