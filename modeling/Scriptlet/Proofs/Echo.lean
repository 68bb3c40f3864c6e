import Mathlib.Data.List.Basic
import Scriptlet.Proofs.MoreInput

/-!
# Scriptlet.Proofs.Echo — echoing answers changes nothing but the echoes

With echo on, an answer that is taken from the queue is also put out, marked as input, after the
prompt of its request.  `c.muted` is the console `c` as it would be had it never echoed.  A run goes
the same way with the one as with the other (`Dialogue.play_muted`), unless its context goes by the
lines of output, since echoes count as lines there.
-/

namespace Scriptlet

/-! ### What is shown of an exchange -/

namespace Exchange

/-- The variable and the answer, if the answer came from the queue. -/
def fromQueue? : Exchange → Option (Token × Text)
  | queued request raw => some (request.name, raw)
  | _ => none

theorem shown?_unmarked (x : Exchange) :
    (x.shown? true).filter (!·.input) = x.shown? false := by
  cases x with
  | line text => rfl
  | queued request raw => rfl
  | provided request reply => rfl
  | refused request => rfl

/-- The request of the exchange, if an answer from the queue met it, shows the template `prompt`. -/
def Prompts (prompt : Text) : Exchange → Prop
  | queued request _ => request.prompt = Prompt.expand prompt request.name
  | _ => True

theorem shown?_marked {prompt : Text} {x : Exchange} (h : x.Prompts prompt) :
    (x.shown? true).filter (·.input) =
      x.fromQueue?.map fun (name, raw) => ⟨Prompt.expand prompt name ++ raw, true⟩ := by
  cases x with
  | line text => rfl
  | queued request raw =>
    have hprompt : request.prompt = Prompt.expand prompt request.name := h
    show some (Output.mk (request.prompt ++ raw) true) = _
    rw [hprompt]
    rfl
  | provided request reply => rfl
  | refused request => rfl

theorem taken?_eq (x : Exchange) : x.taken? = x.fromQueue?.map (·.2) := by
  cases x with
  | line text => rfl
  | queued request raw => rfl
  | provided request reply => rfl
  | refused request => rfl

end Exchange

/-! ### A console that does not echo -/

namespace Console

variable (c : Console) (name : Token)

/-- The console without echo, and without the echoes so far. -/
def muted : Console := { c with echo := false, outputs := c.outputs.filter (!·.input) }

theorem emit_muted (text : Text) :
    c.muted.emit ⟨text, false⟩ = (c.emit ⟨text, false⟩).muted := by
  unfold emit muted
  rw [Array.filter_push]
  rfl

theorem muted_emit_echo (text : Text) : (c.emit ⟨text, true⟩).muted = c.muted := by
  unfold emit muted
  rw [Array.filter_push]
  rfl

theorem answer_muted : c.muted.answer name = ((c.answer name).1, (c.answer name).2.muted) := by
  cases hq : c.queue with
  | cons raw rest =>
    have hq' : c.muted.queue = raw :: rest := hq
    rw [answer_of_queue hq, answer_of_queue hq']
    cases c.echo with
    | false => rfl
    | true => exact congrArg (Prod.mk _) (muted_emit_echo { c with queue := rest } _).symm
  | nil =>
    have hq' : c.muted.queue = [] := hq
    cases hp : c.provider with
    | none =>
      have hp' : c.muted.provider = none := hp
      rw [answer_of_none hq hp, answer_of_none hq' hp']
    | some p =>
      have hp' : c.muted.provider = some p := hp
      rw [answer_of_provider hq hp, answer_of_provider hq' hp']
      rfl

theorem exchange_muted : c.muted.exchange name = c.exchange name := rfl

theorem prompts_exchange : (c.exchange name).Prompts c.prompt := by
  unfold exchange
  split
  · exact rfl
  · trivial
  · trivial

end Console

namespace Dialogue

variable {ρ : Type} (cancelled : (requests looks : Nat) → Bool)

theorem play_muted (d : Dialogue ρ) (c : Console) :
    d.play ⟨fun _ => cancelled⟩ c.muted =
      (d.play ⟨fun _ => cancelled⟩ c).map fun x => (x.1, x.2.muted) := by
  induction d generalizing c with
  | done result => rfl
  | say text next ih =>
    rw [play, Console.emit_muted]
    exact ih _
  | ask name next ih =>
    rw [play, Console.answer_muted]
    exact ih _ _
  | poll next ih => exact ih _ c.look
  | cut => rfl

theorem transcript_muted (d : Dialogue ρ) (c : Console) :
    d.transcript ⟨fun _ => cancelled⟩ c.muted = d.transcript ⟨fun _ => cancelled⟩ c := by
  induction d generalizing c with
  | done result => rfl
  | say text next ih =>
    rw [transcript, Console.emit_muted]
    exact congrArg (List.cons _) (ih _)
  | ask name next ih =>
    rw [transcript, Console.exchange_muted, Console.answer_muted]
    exact congrArg (List.cons _) (ih _ _)
  | poll next ih => exact ih _ c.look
  | cut => rfl

/-- The prompt template stays what it was when the run began. -/
theorem prompts_transcript {context : Context} (d : Dialogue ρ) (c : Console) :
    ∀ x ∈ d.transcript context c, x.Prompts c.prompt := by
  induction d generalizing c with
  | done result => nofun
  | say text next ih =>
    intro x hx
    rcases List.mem_cons.1 hx with rfl | hx
    · trivial
    · exact ih (c.emit ⟨text, false⟩) x hx
  | ask name next ih =>
    intro x hx
    rcases List.mem_cons.1 hx with rfl | hx
    · exact Console.prompts_exchange c name
    · rw [← (Console.advances_answer c name).prompt]
      exact ih _ _ x hx
  | poll next ih => exact ih _ c.look
  | cut => nofun

end Dialogue

namespace Session

variable (s : Session)

theorem console_muted : (s.setEcho false).console = (s.setEcho true).console.muted := rfl

/-- The answers that a run takes from the queue, each with the variable it is for. -/
def answered (context : Context) (n : Nat) : List (Token × Text) :=
  ((s.program.dialogue s.mode n).transcript context s.console).filterMap Exchange.fromQueue?

theorem queue_eq_answered {s s' : Session} {context : Context} {n : Nat} {r : RunRecord}
    (h : s.run context n = some (r, s')) :
    s.queue = (s.answered context n).map (·.2) ++ s'.queue := by
  have htaken : Exchange.taken? = fun x => x.fromQueue?.map (·.2) := funext Exchange.taken?_eq
  rw [queue_run h, htaken, ← List.map_filterMap]
  rfl

end Session

/-- **Echo is transparent.**  A session is run with echo on and with echo off, uncancelled or in any
context that does not go by the lines of output.  The two runs have the same exchanges, and one is
over exactly when the other is.  They have the same result and the same requests, and leave the same
queue, variables and functions.  Without the lines marked as input, the lines with echo on are those
with echo off.  The lines marked as input are one for each answer that was taken from the queue, in
their order: the prompt for its variable and then the answer. -/
theorem echo_transparent (s : Session) (cancelled : (requests looks : Nat) → Bool) (n : Nat) :
    let context : Context := ⟨fun _ => cancelled⟩
    let echoing := s.setEcho true
    let silent := s.setEcho false
    (s.program.dialogue s.mode n).transcript context silent.console =
        (s.program.dialogue s.mode n).transcript context echoing.console ∧
      silent.run context n = (echoing.run context n).map (fun x =>
        ({ x.1 with outputs := x.1.outputs.filter (!·.input) }, x.2.setEcho false)) ∧
      silent.shown context n = (echoing.shown context n).filter (!·.input) ∧
      (echoing.shown context n).filter (·.input) =
        (echoing.answered context n).map
          (fun (name, raw) => ⟨Prompt.expand s.prompt name ++ raw, true⟩) ∧
      ∀ r s', echoing.run context n = some (r, s') →
        r.outputs = echoing.shown context n ∧
          s.queue = (echoing.answered context n).map (·.2) ++ s'.queue := by
  intro context echoing silent
  have htranscript : (s.program.dialogue s.mode n).transcript context silent.console =
      (s.program.dialogue s.mode n).transcript context echoing.console :=
    Dialogue.transcript_muted cancelled _ echoing.console
  refine ⟨htranscript, ?_, ?_, ?_, fun r s' hr =>
    ⟨Session.outputs_run hr, Session.queue_eq_answered hr⟩⟩
  · have hplay : (s.program.dialogue s.mode n).play context echoing.console.muted = _ :=
      Dialogue.play_muted cancelled _ echoing.console
    show ((s.program.dialogue s.mode n).play context silent.console).map _ =
      (((s.program.dialogue s.mode n).play context echoing.console).map _).map _
    rw [Session.console_muted, hplay, Option.map_map, Option.map_map]
    refine congrArg (Option.map · _) (funext fun x => ?_)
    simp [Console.muted, Session.setEcho, echoing, silent]
  · show ((s.program.dialogue s.mode n).transcript context silent.console).filterMap _ =
      (List.filterMap (Exchange.shown? true) _).filter _
    rw [htranscript, List.filter_filterMap]
    exact List.filterMap_congr fun x _ => x.shown?_unmarked.symm
  · show (List.filterMap (Exchange.shown? true) _).filter _ = (List.filterMap _ _).map _
    rw [List.filter_filterMap, List.map_filterMap]
    exact List.filterMap_congr fun x hx =>
      Exchange.shown?_marked (Dialogue.prompts_transcript _ echoing.console x hx)

end Scriptlet
