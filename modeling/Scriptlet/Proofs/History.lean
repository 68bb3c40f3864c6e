import Scriptlet.Proofs.Transcript
import Scriptlet.Settings.Basic

/-!
# Scriptlet.Proofs.History — a run does not depend on the runs before it

A session is used by operations: its settings are changed, answers are queued, a provider is
installed, the program is run.  Runs leave variables and functions behind, use up answers and
question the provider, and they may fail or be cancelled in the middle of calls.  The next run is
nevertheless that of a session built anew with the present settings, the present queue and the
provider in its present state (`run_independent_of_history`).

A provider has a memory of the requests made to it.  `Provider.resumed` is the provider as it is
after some requests, with no memory of its own.
-/

namespace Scriptlet

/-- What can be done with a session. -/
inductive Operation where
  | setReturnMode (mode : ReturnMode)
  | setPrompt (setting : Text)
  | setEcho (echo : Bool)
  | enqueue (answers : List Text)
  /-- Install a provider, or remove it. -/
  | setProvider (provider : Option Provider)
  | configure (settings : Settings)
  /-- Run the program, following it for a number of nested steps. -/
  | run (context : Context) (n : Nat)

/-- The session after an operation.  There is none after a run that was cut. -/
def Session.perform (s : Session) : Operation → Option Session
  | .setReturnMode mode => some (s.setReturnMode mode)
  | .setPrompt setting => some (s.setPrompt setting)
  | .setEcho echo => some (s.setEcho echo)
  | .enqueue answers => some (s.enqueue answers)
  | .setProvider provider => some (s.setProvider provider)
  | .configure settings => some (settings.apply s)
  | .run context n => (s.run context n).map (·.2)

/-! ### What operations keep -/

/-- The session runs the program `p`, and it has something to ask with. -/
structure Session.Serves (p : Program) (s : Session) : Prop where
  program : s.program = p
  prompt : s.prompt ≠ []

theorem Prompt.template_ne_nil (setting : Text) : Prompt.template setting ≠ [] := by
  unfold Prompt.template
  split
  · decide
  · assumption

theorem Session.serves_new (p : Program) : (Session.new p).Serves p :=
  ⟨rfl, Prompt.template_ne_nil []⟩

theorem Session.Serves.perform {p : Program} {s s' : Session} (h : s.Serves p) {op : Operation}
    (hop : s.perform op = some s') : s'.Serves p := by
  cases op with
  | setReturnMode mode | setEcho echo | enqueue answers | setProvider provider =>
    obtain rfl := Option.some.inj hop
    exact ⟨h.program, h.prompt⟩
  | setPrompt setting =>
    obtain rfl := Option.some.inj hop
    exact ⟨h.program, Prompt.template_ne_nil setting⟩
  | configure settings =>
    obtain rfl := Option.some.inj hop
    exact ⟨h.program, Prompt.template_ne_nil settings.prompt⟩
  | run context n =>
    obtain ⟨x, hx, rfl⟩ := Option.map_eq_some_iff.1 hop
    obtain ⟨y, -, rfl⟩ := Option.map_eq_some_iff.1 hx
    exact ⟨h.program, h.prompt⟩

/-- By induction on the operations. -/
theorem Session.Serves.history {p : Program} {s s' : Session} (h : s.Serves p)
    {history : List Operation} (hs : history.foldlM Session.perform s = some s') :
    s'.Serves p := by
  induction history generalizing s with
  | nil =>
    obtain rfl := Option.some.inj hs
    exact h
  | cons op history ih =>
    obtain ⟨t, ht, hrest⟩ := Option.bind_eq_some_iff.1 hs
    exact ih (h.perform ht) hrest

/-! ### A provider in the state it is in -/

/-- The provider as it is after the requests `asked`. -/
def Provider.resumed (p : Provider) (asked : List Request) : Provider where
  reply requests := p.reply (requests ++ asked)

namespace Console

/-- The console `c` with a provider that has been asked before. -/
def recalling (c : Console) (provider : Option Provider) (asked : List Request) : Console :=
  { c with provider, asked := c.asked ++ asked }

variable {c : Console} {provider : Option Provider} {asked : List Request}

theorem answer_recalling (h : c.provider = provider.map (·.resumed asked)) (name : Token) :
    (c.recalling provider asked).answer name =
      ((c.answer name).1, (c.answer name).2.recalling provider asked) := by
  cases hq : c.queue with
  | cons raw rest =>
    have hq' : (c.recalling provider asked).queue = raw :: rest := hq
    rw [answer_of_queue hq, answer_of_queue hq']
    dsimp only
    rw [apply_ite (recalling · provider asked)]
    rfl
  | nil =>
    have hq' : (c.recalling provider asked).queue = [] := hq
    cases provider with
    | none => rw [answer_of_none hq h, answer_of_none hq' rfl]
    | some p =>
      rw [answer_of_provider hq h, answer_of_provider hq' rfl]
      rfl

theorem exchange_recalling (h : c.provider = provider.map (·.resumed asked)) (name : Token) :
    (c.recalling provider asked).exchange name = c.exchange name := by
  cases hq : c.queue with
  | cons raw rest =>
    have hq' : (c.recalling provider asked).queue = raw :: rest := hq
    unfold exchange
    rw [hq, hq']
    rfl
  | nil =>
    have hq' : (c.recalling provider asked).queue = [] := hq
    unfold exchange
    rw [hq, hq', h]
    cases provider with
    | none => rfl
    | some p => rfl

end Console

namespace Dialogue

variable {ρ : Type} {context : Context} {c : Console} {provider : Option Provider}
  {asked : List Request}

theorem play_recalling (d : Dialogue ρ) (h : c.provider = provider.map (·.resumed asked)) :
    d.play context (c.recalling provider asked) =
      (d.play context c).map fun x => (x.1, x.2.recalling provider asked) := by
  induction d generalizing c with
  | done result => rfl
  | say text next ih => exact ih (c := c.emit _) h
  | ask name next ih =>
    rw [play, Console.answer_recalling h]
    exact ih _ ((Console.advances_answer c name).provider.trans h)
  | poll next ih => exact ih _ (c := c.look) h
  | cut => rfl

theorem transcript_recalling (d : Dialogue ρ) (h : c.provider = provider.map (·.resumed asked)) :
    d.transcript context (c.recalling provider asked) = d.transcript context c := by
  induction d generalizing c with
  | done result => rfl
  | say text next ih => exact congrArg (List.cons _) (ih (c := c.emit _) h)
  | ask name next ih =>
    rw [transcript, Console.exchange_recalling h, Console.answer_recalling h]
    exact congrArg (List.cons _) (ih _ ((Console.advances_answer c name).provider.trans h))
  | poll next ih => exact ih _ (c := c.look) h
  | cut => rfl

end Dialogue

/-! ### Runs -/

/-- A session for `p`, built anew, with the settings, the queue and the provider of `s`. -/
def Session.rebuilt (p : Program) (s : Session) : Session :=
  (((((Session.new p).setReturnMode s.mode).setPrompt s.prompt).setEcho s.echo).setProvider
    (s.provider.map (·.resumed s.asked))).enqueue s.queue

theorem Session.prompt_rebuilt {p : Program} {s : Session} (h : s.Serves p) :
    (s.rebuilt p).prompt = s.prompt := if_neg h.prompt

theorem Session.console_rebuilt {p : Program} {s : Session} (h : s.Serves p) :
    s.console = (s.rebuilt p).console.recalling s.provider s.asked := by
  unfold Session.console Console.recalling
  rw [Session.prompt_rebuilt h]
  rfl

/-- The lines that a listener sees in a run, as far as the run is followed. -/
def Session.shown (s : Session) (context : Context) (n : Nat) : List Output :=
  ((s.program.dialogue s.mode n).transcript context s.console).filterMap (Exchange.shown? s.echo)

theorem Session.outputs_run {s s' : Session} {context : Context} {n : Nat} {r : RunRecord}
    (h : s.run context n = some (r, s')) : r.outputs = s.shown context n := by
  obtain ⟨x, hx, heq⟩ := Option.map_eq_some_iff.1 h
  obtain ⟨rfl, -⟩ := Prod.mk.inj heq
  exact (Dialogue.play_advances _ hx).outputs

/-- **A run does not depend on the runs before it.**  Let `s` be a session for `p` after any
operations.  Its next run is that of a session for `p` built anew: it ends in the same way with the
same lines and the same requests, and leaves the same queue, variables and functions, and one is
over exactly when the other is.  Only the memory of the provider is longer.  As long as both go on
they have the same exchanges.  On success a run returns the lines that a listener has seen, and on
failure it returns none. -/
theorem run_independent_of_history {p : Program} {history : List Operation} {s : Session}
    (h : history.foldlM Session.perform (Session.new p) = some s) (context : Context) (n : Nat) :
    s.run context n = ((s.rebuilt p).run context n).map (fun x =>
        (x.1, { x.2 with provider := s.provider, asked := x.2.asked ++ s.asked })) ∧
      (p.dialogue s.mode n).transcript context s.console =
        (p.dialogue s.mode n).transcript context (s.rebuilt p).console ∧
      ∀ r s', s.run context n = some (r, s') →
        r.outputs = s.shown context n ∧
          r.returned = match r.result with
            | .ok () => .ok (s.shown context n)
            | .error e => .error e := by
  have hserves := (Session.serves_new p).history h
  have hconsole := Session.console_rebuilt hserves
  refine ⟨?_, ?_, fun r s' hr => ?_⟩
  · have hplay : (p.dialogue s.mode n).play context
          ((s.rebuilt p).console.recalling s.provider s.asked) = _ :=
      Dialogue.play_recalling _ rfl
    rw [Session.run, hserves.program, hconsole, hplay, Session.run, Option.map_map, Option.map_map,
      Session.prompt_rebuilt hserves]
    rfl
  · rw [hconsole]
    exact Dialogue.transcript_recalling _ rfl
  · have houtputs := Session.outputs_run hr
    refine ⟨houtputs, ?_⟩
    unfold RunRecord.returned
    rw [houtputs]
    cases r.result with
    | ok u => rfl
    | error e => rfl

/-- A session after a run that failed two calls deep, one that was cancelled at its start, and one
that was cancelled from outside between a definition and a call. -/
theorem run_independent_of_history_failed :
    let x := utf8 "x"
    let p : Program := [.read x, .fun (utf8 "f") [] [.call (utf8 "g") []], .call (utf8 "f") []]
    let history : List Operation :=
      [.setEcho true, .enqueue [utf8 "one", utf8 "two", utf8 "three"],
        .setProvider (some (.ofAnswers [.ok (utf8 "four")] .unavailable)), .run .never 9,
        .run (Cancellation.context ⟨some 0, none⟩) 9, .run (.after 2) 9, .setPrompt (utf8 "? ")]
    ∃ s, history.foldlM Session.perform (Session.new p) = some s ∧ s.queue = [utf8 "three"] ∧
      s.run .never 9 = ((s.rebuilt p).run .never 9).map (fun x =>
        (x.1, { x.2 with provider := s.provider, asked := x.2.asked ++ s.asked })) ∧
      s.shown .never 9 = [⟨utf8 "? three", true⟩] := by
  intro x p history
  have hs : history.foldlM Session.perform (Session.new p) = some _ := rfl
  exact ⟨_, hs, rfl, (run_independent_of_history hs .never 9).1, by decide +kernel⟩

end Scriptlet
