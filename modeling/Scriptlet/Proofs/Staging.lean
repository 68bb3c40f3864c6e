import Mathlib.Data.List.Forall2
import Scriptlet.Proofs.SingleRun

/-!
# Scriptlet.Proofs.Staging — a stage is a patient theatre

A `Stage` carries out every command at once, and so never sees the restart key while a run is being
started.  Main statements: whatever keys and changes of size a stage is given, a theatre of patient
people comes to the same screen and the same runs (`Stage.Performed.exists_theatre`); hence on a
stage at most one run is not over (`Stage.Performed.one_run`).
-/

namespace Scriptlet

/-! ### Runs -/

/-- A run in the background stands where a run on a stage does.  On a stage a run that has been
cancelled is over at once. -/
structure Worker.Matches (w : Worker) (p : Producer) : Prop where
  channel : w.channel = []
  producer : w.cancelled = false ∧ w.producer = p ∨ w.cancelled = true ∧ p = .over

section Worker

variable {prompt : Text} {w : Worker} {p p' : Producer} {event : Event}

theorem Worker.Matches.cancel (h : w.Matches p) :
    Matches { w with cancelled := true } .over := ⟨h.channel, .inr ⟨rfl, rfl⟩⟩

/-- A run that waits takes its answer; others do not care. -/
theorem Worker.Matches.answer (h : w.Matches p) (text : Text) :
    ∃ w', Relation.ReflTransGen (Step prompt) { w with reply := some text } w' ∧
      w'.Matches (p.answer text) := by
  obtain ⟨hchannel, ⟨hcancelled, rfl⟩ | ⟨hcancelled, rfl⟩⟩ := h
  · cases hproducer : w.producer with
    | waiting next =>
      refine ⟨_, .single (.hear hproducer rfl), hchannel, .inl ⟨hcancelled, ?_⟩⟩
      exact congrArg (Producer.answer text) hproducer
    | _ => exact ⟨_, .refl, hchannel, .inl ⟨hcancelled, hproducer⟩⟩
  · exact ⟨_, .refl, hchannel, .inr ⟨hcancelled, rfl⟩⟩

/-- The next event is sent, and can be received. -/
theorem Worker.Matches.next (h : w.Matches p) (hnext : p.next? prompt = some (event, p')) :
    ∃ w', Relation.ReflTransGen (Step prompt) w w' ∧ w'.channel = [event] ∧
      Matches { w' with channel := [], received := w'.received ++ [event] } p' := by
  obtain ⟨hchannel, ⟨hcancelled, rfl⟩ | ⟨-, rfl⟩⟩ := h
  · obtain ⟨q, hquiet, hsend⟩ := Producer.exists_step_of_next? hnext
    have hquiet : Relation.ReflTransGen (Step prompt) w { w with producer := q } :=
      hquiet.lift (fun q => { w with producer := q }) fun _ _ hstep => .work (hcancelled ▸ hstep)
    have hsend : Step prompt { w with producer := q }
        { w with producer := p', channel := w.channel ++ [event], reply := none } :=
      .send (hcancelled ▸ hsend) (hchannel ▸ Nat.zero_lt_succ 255)
    exact ⟨_, hquiet.tail hsend, congrArg (· ++ [event]) hchannel, rfl, .inl ⟨hcancelled, rfl⟩⟩
  · cases hnext

/-- What is done to one run is done to the run that it matches. -/
theorem Worker.forall₂_set {workers : List Worker} {runs : List Producer} {w : Worker} {p : Producer}
    (h : List.Forall₂ Matches workers runs) (hp : w.Matches p) (i : Nat) :
    List.Forall₂ Matches (workers.set i w) (runs.set i p) := by
  induction h generalizing i with
  | nil => exact .nil
  | cons hhead htail ih =>
    cases i with
    | zero => exact .cons hp htail
    | succ i => exact .cons hhead (ih i)

/-- A run and the run that it matches, or neither. -/
theorem Worker.getElem?_forall₂ {workers : List Worker} {runs : List Producer}
    (h : List.Forall₂ Matches workers runs) (i : Nat) :
    workers[i]? = none ∧ runs[i]? = none ∨
      ∃ w p, workers[i]? = some w ∧ runs[i]? = some p ∧ w.Matches p := by
  induction h generalizing i with
  | nil => exact .inl ⟨rfl, rfl⟩
  | cons hhead _ ih =>
    cases i with
    | zero => exact .inr ⟨_, _, rfl, rfl, hhead⟩
    | succ i => exact ih i

end Worker

/-- At most one thing is done at once. -/
theorem Screen.effects_update (s : Screen) (message : Message) :
    (s.update message).effects = [] ∨ ∃ effect, (s.update message).effects = [effect] := by
  cases message with
  | key key => exact s.effects_press key
  | _ => exact .inl rfl

/-! ### Stages and theatres -/

namespace Theatre

variable {script : Script} {t : Theatre} {s s' : Stage} {c : Option Command}

/-- The theatre stands where the stage does when the command `c` is still to be carried out.  Other
commands may be in flight as well, but none that start a run. -/
structure Matches (t : Theatre) (s : Stage) (c : Option Command) : Prop where
  script : t.script = s.script
  screen : t.screen = s.screen
  runs : List.Forall₂ Worker.Matches t.workers s.runs
  flights : ∃ others, t.flights = others ++ Flight.ofCommand c ∧ ∀ f ∈ others, f.isStart = false
  idle : c = some .start → s.screen.pending = none

theorem Matches.calm (h : t.Matches s none) : t.Calm := by
  obtain ⟨others, hflights, hothers⟩ := h.flights
  rw [Calm, hflights, Flight.ofCommand, List.append_nil]
  exact hothers

/-- A command other than a start need not be carried out. -/
theorem Matches.leave (h : t.Matches s c) (hc : c ≠ some .start) : t.Matches s none := by
  obtain ⟨others, hflights, hothers⟩ := h.flights
  refine ⟨h.script, h.screen, h.runs, ⟨t.flights, (List.append_nil _).symm, ?_⟩, nofun⟩
  intro f hf
  obtain hf | hf := List.mem_append.1 (hflights ▸ hf)
  · exact hothers f hf
  · match c with
    | some .start => exact absurd rfl hc
    | some (.await run) => exact List.mem_singleton.1 hf ▸ rfl
    | some .quit | none => cases hf

/-- A run may take several steps in a row. -/
theorem Reachable.works (h : Reachable script Patient t) {run : RunId} {w w' : Worker}
    (hworker : t.workers[run]? = some w) (hsteps : Relation.ReflTransGen (Worker.Step t.prompt) w w') :
    Reachable script Patient { t with workers := t.workers.set run w' } := by
  induction hsteps with
  | refl =>
    obtain ⟨hrun, rfl⟩ := List.getElem?_eq_some_iff.1 hworker
    rw [List.set_getElem_self]
    exact h
  | @tail v v' _ hstep ih =>
    have hrun := (List.getElem?_eq_some_iff.1 hworker).1
    have hv : (t.workers.set run v)[run]? = some v := List.getElem?_set_self hrun
    have hnext := ih.background (.work hv hstep)
    rwa [List.set_set] at hnext

/-- A run that is not over on the stage is live in the theatre. -/
theorem Matches.live (h : t.Matches s c) {i : RunId} {p : Producer} (hi : s.runs[i]? = some p)
    (hp : p ≠ .over) : ∃ w, t.workers[i]? = some w ∧ w.Live := by
  obtain ⟨-, hnone⟩ | ⟨w, q, hw, hq, -, hproducer⟩ := Worker.getElem?_forall₂ h.runs i
  · cases hnone.symm.trans hi
  cases hq.symm.trans hi
  obtain ⟨hcancelled, rfl⟩ | ⟨-, rfl⟩ := hproducer
  · exact ⟨w, hw, hp, hcancelled⟩
  · exact absurd rfl hp

theorem modify_of_some {α : Type} {xs : List α} {i : Nat} {x : α} (h : xs[i]? = some x)
    (f : α → α) : xs.modify i f = xs.set i (f x) := by
  rw [List.modify_eq_set_getElem?, h]
  rfl

/-- What is done to a run on the stage is done to the run in the background, which then goes on. -/
theorem Reachable.modify (h : Reachable script Patient t) {workers : List Worker} {run : RunId}
    {f : Worker → Worker} {g : Producer → Producer} (hworkers : t.workers = workers.modify run f)
    (hruns : List.Forall₂ Worker.Matches workers s.runs)
    (hsteps : ∀ {w p}, w.Matches p →
      ∃ w', Relation.ReflTransGen (Worker.Step t.prompt) (f w) w' ∧ w'.Matches (g p)) :
    ∃ workers', Reachable script Patient { t with workers := workers' } ∧
      List.Forall₂ Worker.Matches workers' (s.modifyRun run g).runs := by
  show ∃ _, _ ∧ List.Forall₂ _ _ (s.runs.modify run g)
  obtain ⟨hw, hp⟩ | ⟨w, p, hw, hp, hmatches⟩ := Worker.getElem?_forall₂ hruns run
  · rw [List.modify_eq_self (List.getElem?_eq_none_iff.1 hw)] at hworkers
    rw [List.modify_eq_self (List.getElem?_eq_none_iff.1 hp)]
    exact ⟨t.workers, h, hworkers ▸ hruns⟩
  · rw [modify_of_some hw] at hworkers
    rw [modify_of_some hp]
    obtain ⟨w', hsteps, hmatches'⟩ := hsteps hmatches
    have hrun := (List.getElem?_eq_some_iff.1 hw).1
    have hworks := h.works (hworkers ▸ List.getElem?_set_self hrun) hsteps
    rw [hworkers, List.set_set] at hworks
    exact ⟨_, hworks, Worker.forall₂_set hruns hmatches' run⟩

theorem Reachable.perform (h : Reachable script Patient t) {effect : Effect} {workers : List Worker}
    (hworkers : t.workers = effect.perform workers)
    (hruns : List.Forall₂ Worker.Matches workers s.runs) :
    ∃ workers', Reachable script Patient { t with workers := workers' } ∧
      List.Forall₂ Worker.Matches workers' (s.perform effect).runs := by
  match effect with
  | .answer .guest text => exact ⟨t.workers, h, hworkers ▸ hruns⟩
  | .answer (.run run) text => exact h.modify hworkers hruns fun hw => hw.answer text
  | .cancel run => exact h.modify hworkers hruns fun hw => ⟨_, .refl, hw.cancel⟩

/-- An effect changes neither the script nor the screen. -/
theorem perform_frame (s : Stage) (effect : Effect) :
    (s.perform effect).script = s.script ∧ (s.perform effect).screen = s.screen := by
  match effect with
  | .answer (.run _) _ | .answer .guest _ | .cancel _ => exact ⟨rfl, rfl⟩

/-- A message has the same consequences on the stage and in a theatre `u` that has come of it. -/
theorem Matches.accept (h : t.Matches s none) {message : Message} {u : Theatre}
    (hreach : Reachable script Patient u)
    (hu : { u with shown := (t.react message).shown } = t.react message)
    (hidle : (s.screen.update message).command = some .start →
      (s.screen.update message).screen.pending = none) :
    ∃ t', Reachable script Patient t' ∧ t'.Matches (s.accept message).1 (s.accept message).2 := by
  obtain ⟨hscript, hscreen, hruns, ⟨others, hflights, hothers⟩, -⟩ := h
  have hscript' : u.script = s.script := (congrArg Theatre.script hu).trans hscript
  have hscreen' : u.screen = (s.screen.update message).screen :=
    hscreen ▸ congrArg Theatre.screen hu
  have hworkers : u.workers = (s.screen.update message).effects.foldl Effect.perform t.workers :=
    hscreen ▸ congrArg Theatre.workers hu
  have hflights' : u.flights = others ++ Flight.ofCommand (s.screen.update message).command := by
    have hcommand : u.flights = t.flights ++ Flight.ofCommand (s.screen.update message).command :=
      hscreen ▸ congrArg Theatre.flights hu
    rw [hcommand, hflights, Flight.ofCommand, List.append_nil]
  show ∃ t', _ ∧ Matches t' ((s.screen.update message).effects.foldl Stage.perform
    { s with screen := (s.screen.update message).screen }) _
  obtain heffects | ⟨effect, heffects⟩ := s.screen.effects_update message
  · rw [heffects] at hworkers ⊢
    exact ⟨u, hreach, hscript', hscreen', hworkers ▸ hruns, ⟨others, hflights', hothers⟩, hidle⟩
  · rw [heffects] at hworkers ⊢
    obtain ⟨hkept, hkept'⟩ :=
      perform_frame { s with screen := (s.screen.update message).screen } effect
    obtain ⟨workers', hreach', hruns'⟩ := hreach.perform
      (s := { s with screen := (s.screen.update message).screen }) hworkers hruns
    refine ⟨_, hreach', hscript'.trans hkept.symm, hscreen'.trans hkept'.symm, hruns',
      ⟨others, hflights', hothers⟩, fun hstart => ?_⟩
    exact (congrArg Screen.pending hkept').trans (hidle hstart)

/-- A run begins, and the screen hears of it. -/
theorem Matches.begin (h : t.Matches s (some .start)) (hreach : Reachable script Patient t) (n : Nat) :
    ∃ t', Reachable script Patient t' ∧
      t'.Matches (Stage.accept { s with runs := s.runs ++ [.ofScript s.script n] }
        (.started (some s.runs.length))).1 (some (.await s.runs.length)) := by
  obtain ⟨hscript, hscreen, hruns, ⟨others, hflights, hothers⟩, -⟩ := h
  have hlaunch := hreach.background (.launch n hflights)
  have hbegin := hlaunch.background (.begin rfl)
  have hmatches : Matches { t with
        flights := others ++ []
        workers := t.workers ++ [{ producer := .ofScript t.script n }] }
      { s with runs := s.runs ++ [.ofScript s.script n] } none := by
    refine ⟨hscript, hscreen, ?_, ⟨others, rfl, hothers⟩, nofun⟩
    exact List.rel_append hruns (.cons ⟨rfl, .inl ⟨rfl, hscript ▸ rfl⟩⟩ .nil)
  rw [hruns.length_eq] at hbegin
  exact hmatches.accept hbegin rfl nofun

/-- The next event of a run is sent, received, and shown. -/
theorem Matches.report {run : RunId} {event : Event} {p p' : Producer}
    (h : t.Matches s (some (.await run))) (hreach : Reachable script Patient t)
    (hrun : s.runs[run]? = some p)
    (hnext : p.next? (Prompt.template s.script.settings.prompt) = some (event, p')) :
    ∃ t', Reachable script Patient t' ∧
      t'.Matches ((s.modifyRun run fun _ => p').accept (Stage.report run event)).1
        ((s.modifyRun run fun _ => p').accept (Stage.report run event)).2 := by
  obtain ⟨hscript, hscreen, hruns, ⟨others, hflights, hothers⟩, -⟩ := h
  obtain ⟨-, hnone⟩ | ⟨w, q, hworker, hq, hmatches⟩ := Worker.getElem?_forall₂ hruns run
  · cases hnone.symm.trans hrun
  cases hq.symm.trans hrun
  have hprompt : Prompt.template s.script.settings.prompt = t.prompt := by rw [prompt, hscript]
  obtain ⟨w', hsteps, hchannel, hmatches'⟩ := hmatches.next (hprompt ▸ hnext)
  have hworks := hreach.works hworker hsteps
  have hset : (t.workers.set run w')[run]? = some w' :=
    List.getElem?_set_self (List.getElem?_eq_some_iff.1 hworker).1
  have hreceive := hworks.background (.receive hflights hset hchannel)
  have hreport := hreceive.background (.report rfl)
  rw [List.set_set] at hreport
  have hmatches : Matches { t with
        flights := others ++ []
        workers := t.workers.set run { w' with channel := [], received := w'.received ++ [event] } }
      (s.modifyRun run fun _ => p') none := by
    refine ⟨hscript, hscreen, ?_, ⟨others, rfl, hothers⟩, nofun⟩
    have hmodify : (s.modifyRun run fun _ => p').runs = s.runs.set run p' := modify_of_some hrun _
    rw [hmodify]
    exact Worker.forall₂_set hruns hmatches' run
  exact hmatches.accept hreport rfl fun hstart =>
    absurd hstart (Screen.command_report_ne_start _ run event)

/-- A command has the same outcome on the stage and in the theatre. -/
theorem Matches.execute {command : Command} (h : t.Matches s (some command))
    (hreach : Reachable script Patient t) {n : Nat} {outcome : Option Message}
    (hexecute : s.execute n command = (s', outcome)) :
    ∃ t', Reachable script Patient t' ∧ t'.Matches (outcome.elim (s', none) s'.accept).1
      (outcome.elim (s', none) s'.accept).2 := by
  cases command with
  | start =>
    cases hexecute
    exact h.begin hreach n
  | quit =>
    cases hexecute
    obtain ⟨hscript, hscreen, hruns, hflights, -⟩ := h.leave nofun
    exact ⟨t, hreach, hscript, hscreen, hruns, hflights, nofun⟩
  | await run =>
    rw [Stage.execute] at hexecute
    split at hexecute
    · cases hexecute
      exact ⟨t, hreach, h.leave nofun⟩
    · next event p hnext =>
      cases hexecute
      obtain ⟨q, hq, hnext⟩ := Option.bind_eq_some_iff.1 hnext
      exact h.report hreach hq hnext

/-- What a stage does until it comes to rest, a theatre can do as well. -/
theorem Matches.settle {n : Nat} (h : t.Matches s c) (hreach : Reachable script Patient t)
    (hsettle : Stage.settle n s c = some s') :
    ∃ t', Reachable script Patient t' ∧ t'.Matches s' none := by
  fun_induction Stage.settle n s c generalizing t with
  | case1 n s =>
    cases hsettle
    exact ⟨t, hreach, h⟩
  | case2 s command => cases hsettle
  | case3 n s command hpending =>
    -- The command stays in flight; it is not a start, because a request is pending.
    cases hsettle
    refine ⟨t, hreach, h.leave fun hstart => ?_⟩
    rw [h.idle hstart] at hpending
    exact Bool.noConfusion hpending.1
  | case4 n s command _ s₁ hexecute =>
    cases hsettle
    exact h.execute hreach hexecute
  | case5 n s command _ s₁ message hexecute s₂ next haccept ih =>
    obtain ⟨t₁, hreach₁, h₁⟩ := h.execute hreach hexecute
    rw [Option.elim_some, haccept] at h₁
    exact ih h₁ hreach₁ hsettle

/-- What a key or a change of size leads to on a stage, it can lead to in a theatre. -/
theorem Matches.deliver {n : Nat} {message : Message} (h : t.Matches s none)
    (hreact : Reachable script Patient (t.react message))
    (hidle : (s.screen.update message).command = some .start →
      (s.screen.update message).screen.pending = none)
    (hdeliver : s.deliver n message = some s') :
    ∃ t', Reachable script Patient t' ∧ t'.Matches s' none := by
  obtain ⟨t₁, hreach₁, h₁⟩ := h.accept hreact rfl hidle
  exact h₁.settle hreach₁ hdeliver

end Theatre

/-! ### What is done on a stage -/

namespace Stage

open Theatre

variable {script : Script} {s : Stage}

/-- The stages that a script comes to when it is started and then keys are pressed and the terminal
changes its size. -/
inductive Performed (script : Script) : Stage → Prop where
  | start {s : Stage} {n : Nat} (h : (ofScript script).start n = some s) : Performed script s
  | key {s s' : Stage} {n : Nat} (h : Performed script s) (key : Key)
      (hdeliver : s.deliver n (.key key) = some s') : Performed script s'
  | resize {s s' : Stage} {n : Nat} (h : Performed script s) (width height : Nat)
      (hdeliver : s.deliver n (.resize width height) = some s') : Performed script s'

/-- **A stage is a patient theatre.**  Whatever is done on a stage, a theatre in which nobody presses
the restart key while a run is being started comes to the same screen and the same runs. -/
theorem Performed.exists_theatre (h : Performed script s) :
    ∃ t, Reachable script Patient t ∧ t.Matches s none := by
  induction h with
  | start hstart =>
    have hmatches : (opening script).Matches (ofScript script) (some .start) :=
      ⟨rfl, rfl, .nil, ⟨[], rfl, nofun⟩, fun _ => rfl⟩
    exact hmatches.settle .opening hstart
  | key _ key hdeliver ih =>
    obtain ⟨t, hreach, hmatches⟩ := ih
    have hreact := hreach.step (fun _ => hmatches.calm) (.key key)
    exact hmatches.deliver hreact Screen.pending_of_start hdeliver
  | resize _ width height hdeliver ih =>
    obtain ⟨t, hreach, hmatches⟩ := ih
    have hreact := hreach.step (fun _ => hmatches.calm) (.resize width height)
    exact hmatches.deliver hreact nofun hdeliver

/-- On a stage at most one run is not over. -/
theorem Performed.one_run (h : Performed script s) {i j : RunId} {p q : Producer}
    (hi : s.runs[i]? = some p) (hj : s.runs[j]? = some q) (hp : p ≠ .over) (hq : q ≠ .over) :
    i = j := by
  obtain ⟨t, hreach, hmatches⟩ := h.exists_theatre
  obtain ⟨w, hw, hlive⟩ := hmatches.live hi hp
  obtain ⟨v, hv, hlive'⟩ := hmatches.live hj hq
  exact hreach.phase.1.oneRun.live i j w v hw hv hlive hlive'

end Stage

end Scriptlet
