import Scriptlet.Proofs.Interleaving
import Scriptlet.Proofs.KeyPresses
import Scriptlet.Proofs.SourceText

/-!
# Scriptlet.Proofs.SingleRun — one run at a time

A screen refuses to restart while a run is on, but it learns of a run only when the message about its
start arrives.  Main statements: as long as nobody presses the restart key while a run is being
started, whatever the order in which keys, commands and runs take their turns, there is at most one
live run, at most one event is waited for, and the lines of output are those of the last run
(`oneRun_of_patient`).  Without this patience all three fail (`impatient_restart_doubles_run`).
-/

namespace Scriptlet

/-! ### What events do to a screen -/

namespace Screen

/-- The message about the result of a run. -/
theorem exists_report_done (run : RunId) (result : Except HostError Unit) :
    ∃ failure, Stage.report run (.done result) = .done failure := by
  cases result with
  | ok _ => exact ⟨none, rfl⟩
  | error e => exact ⟨_, rfl⟩

/-- An event never makes the screen restart the script. -/
theorem command_report_ne_start (s : Screen) (run : RunId) (event : Event) :
    (s.update (Stage.report run event)).command ≠ some .start := by
  cases event with
  | output o => exact s.awaitRun_ne_start
  | request r => exact (Option.some_ne_none _).symm
  | done result =>
    obtain ⟨failure, hreport⟩ := exists_report_done run result
    rw [hreport]
    exact (Option.some_ne_none _).symm

/-- An event adds its line, and the result of a run at most a complaint. -/
theorem lines_report (s : Screen) (run : RunId) (event : Event) :
    ∃ complaint, (s.update (Stage.report run event)).screen.lines =
      s.lines ++ (event.line?.toList ++ complaint) := by
  cases event with
  | output o => exact ⟨[], rfl⟩
  | request r => exact ⟨[], (List.append_nil _).symm⟩
  | done result =>
    obtain ⟨failure, hreport⟩ := exists_report_done run result
    rw [hreport]
    cases failure with
    | none => exact ⟨[], (List.append_nil _).symm⟩
    | some message => exact ⟨_, rfl⟩

end Screen

namespace Theatre

variable {t t' : Theatre} {run : RunId} {event : Event}

/-! ### Lines of output -/

/-- The lines of output that events of a run add. -/
def linesOf (run : RunId) (events : List Event) : List (RunId × Text) :=
  (events.filterMap Event.line?).map (run, ·)

theorem linesOf_append (run : RunId) (events events' : List Event) :
    linesOf run (events ++ events') = linesOf run events ++ linesOf run events' := by
  rw [linesOf, List.filterMap_append, List.map_append, linesOf, linesOf]

theorem map_snd_linesOf (run : RunId) (events : List Event) :
    (linesOf run events).map Prod.snd = events.filterMap Event.line? := by
  rw [linesOf, List.map_map]
  exact List.map_id _

/-- What becomes of the lines when an event is reported. -/
theorem shown_report (t : Theatre) (run : RunId) (event : Event) :
    ((t.react (Stage.report run event)).note run event).shown =
      t.shown ++ linesOf run [event] := by
  have hshown : (t.react (Stage.report run event)).shown = t.shown :=
    if_neg (t.screen.command_report_ne_start run event)
  rw [note, hshown]
  cases event <;> rfl

/-- The lines of output stand on the screen, among answers and complaints. -/
def Listed (t : Theatre) : Prop := (t.shown.map Prod.snd).Sublist t.screen.lines

theorem Listed.react (h : t.Listed) {message : Message}
    (hlines : (t.screen.update message).command ≠ some .start →
      t.screen.lines.Sublist (t.screen.update message).screen.lines) :
    (t.react message).Listed := by
  rw [Listed, Theatre.react]
  split
  · exact List.nil_sublist _
  · next hcommand => exact h.trans (hlines hcommand)

theorem Listed.key (h : t.Listed) (key : Key) : (t.react (.key key)).Listed := by
  refine h.react fun hcommand => ?_
  have hreacts := t.screen.reacts_press key
  change (t.screen.press key).command ≠ _ at hcommand
  change List.Sublist _ (t.screen.press key).screen.lines
  generalize t.screen.press key = r at hreacts hcommand ⊢
  cases hreacts with
  | moved _ _ _ _ | edited _ _ => exact List.Sublist.refl _
  | answered _ _ => exact List.sublist_append_left _ _
  | restarted _ _ => exact absurd rfl hcommand

theorem Listed.report (h : t.Listed) (run : RunId) (event : Event) :
    ((t.react (Stage.report run event)).note run event).Listed := by
  obtain ⟨complaint, hlines⟩ := t.screen.lines_report run event
  rw [Listed, shown_report, List.map_append, map_snd_linesOf]
  show List.Sublist _ (t.screen.update (Stage.report run event)).screen.lines
  rw [hlines, List.filterMap_cons, List.filterMap_nil]
  refine h.append ?_
  cases event.line? with
  | none => exact List.nil_sublist _
  | some line => exact List.sublist_append_left [line] complaint

theorem Listed.step {o : Occurrence} (h : t.Listed) (hstep : t.Step o t') : t'.Listed := by
  cases hstep with
  | key key => exact h.key key
  | resize width height => exact h.react fun _ => List.Sublist.refl _
  | begin hflights =>
    exact Listed.react (t := { t with flights := _ }) h fun _ => List.Sublist.refl _
  | report hflights => exact Listed.report (t := { t with flights := _ }) h _ _
  | launch n hflights => exact h
  | receive hflights hworker hchannel => exact h
  | close hflights hworker hover hchannel => exact h
  | work hworker hstep => exact h

/-! ### Results come last -/

/-- In no run anything happens after its result. -/
def Sound (t : Theatre) : Prop := ∀ f ∈ t.feeds, f.Sound

theorem Sound.of_feeds (h : t.Sound) (hfeeds : t'.feeds = t.feeds) : t'.Sound := by
  rw [Sound, hfeeds]
  exact h

theorem Sound.worker (h : t.Sound) {w : Worker} {i : Nat} (hw : t.workers[i]? = some w) :
    w.Sound := h _ (List.mem_map_of_mem (List.mem_of_getElem? hw))

theorem Sound.set (h : t.Sound) {w : Worker} (hw : w.Sound) {i : Nat}
    (hworkers : t'.workers = t.workers.set i w) : t'.Sound := by
  intro f hf
  rw [feeds, hworkers] at hf
  obtain ⟨v, hv, rfl⟩ := List.mem_map.1 hf
  obtain hv | rfl := List.mem_or_eq_of_mem_set hv
  · exact h _ (List.mem_map_of_mem hv)
  · exact hw

theorem Sound.step {o : Occurrence} (h : t.Sound) (hstep : t.Step o t') : t'.Sound := by
  cases hstep with
  | key key => exact h.of_feeds (feeds_react t _)
  | resize width height => exact h.of_feeds (feeds_react t _)
  | launch n hflights =>
    intro f hf
    obtain ⟨w, hw, rfl⟩ := List.mem_map.1 hf
    obtain hw | hw := List.mem_append.1 hw
    · exact h _ (List.mem_map_of_mem hw)
    · obtain rfl := List.mem_singleton.1 hw
      exact fun result hmem => nomatch hmem
  | begin hflights => exact h.of_feeds (feeds_react { t with flights := _ } _)
  | receive hflights hworker hchannel =>
    have hsound := h.worker hworker
    refine h.set ?_ rfl
    intro result hmem
    -- The event moves from the channel to those received.
    exact hsound result (by simpa [Feed.sent, hchannel] using hmem)
  | close hflights hworker hover hchannel => exact h
  | report hflights => exact h.of_feeds (feeds_react { t with flights := _ } _)
  | work hworker hstep => exact h.set (hstep.sound (h.worker hworker)) rfl

/-! ### The last run -/

/-- The run `run` is the last, all runs before it are over, and `f` is what it has done. -/
def Current (feeds : List Feed) (run : RunId) (f : Feed) : Prop :=
  ∃ earlier, feeds = earlier ++ [f] ∧ earlier.length = run ∧ ∀ g ∈ earlier, g.producer = .over

section Current

variable {f : Feed} {i : Nat} {w w' : Worker}

theorem Current.length (h : Current t.feeds run f) : t.workers.length = run + 1 := by
  obtain ⟨earlier, hfeeds, rfl, -⟩ := h
  have hlength : t.feeds.length = t.workers.length := List.length_map _
  rw [← hlength, hfeeds, List.length_append]
  rfl

theorem Current.eq_of_getElem? (h : Current t.feeds run f) (hw : t.workers[run]? = some w) :
    w.toFeed = f := by
  obtain ⟨earlier, hfeeds, rfl, -⟩ := h
  have hlast : t.feeds[earlier.length]? = some w.toFeed := by
    rw [feeds, List.getElem?_map, hw]
    rfl
  rw [hfeeds, List.getElem?_concat_length] at hlast
  exact (Option.some.inj hlast).symm

/-- Only the last run can go on. -/
theorem Current.index (h : Current t.feeds run f) (hw : t.workers[i]? = some w)
    (hopen : w.producer ≠ .over) : i = run := by
  have hi := (List.getElem?_eq_some_iff.1 hw).1
  have hlength := h.length
  obtain ⟨earlier, hfeeds, rfl, hover⟩ := h
  obtain hearlier | hlast := Nat.lt_or_ge i earlier.length
  · have hat : t.feeds[i]? = some w.toFeed := by
      rw [feeds, List.getElem?_map, hw]
      rfl
    rw [hfeeds, List.getElem?_append_left hearlier] at hat
    exact absurd (hover _ (List.mem_of_getElem? hat)) hopen
  · omega

theorem Current.set (h : Current t.feeds run f) (w : Worker) :
    Current (feeds { t with workers := t.workers.set run w }) run w.toFeed := by
  obtain ⟨earlier, hfeeds, rfl, hover⟩ := h
  refine ⟨earlier, ?_, rfl, hover⟩
  rw [feeds, List.map_set, ← feeds, hfeeds, List.set_append_right _ _ (Nat.le_refl _),
    Nat.sub_self]
  rfl

/-- A step of a run is a step of the last run. -/
theorem Current.work (h : Current t.feeds run f) (hw : t.workers[i]? = some w)
    (hstep : w.Step t.prompt w') :
    w.toFeed = f ∧ Current (feeds { t with workers := t.workers.set i w' }) run w'.toFeed := by
  obtain rfl := h.index hw hstep.ne_over
  exact ⟨h.eq_of_getElem? hw, h.set w'⟩

end Current

/-! ### The phases of a run -/

/-- Where a theatre is when nobody is impatient.  There is at most one thing in flight, and it says
what the last run is at. -/
inductive Phase (t : Theatre) : Prop where
  /-- A run is to be started. -/
  | starting (hflights : t.flights = [.start]) (hover : ∀ f ∈ t.feeds, f.producer = .over)
      (hrunning : t.screen.running = false) (hpending : t.screen.pending = none)
      (hshown : t.shown = [])
  /-- A run has begun, and the screen does not know it yet. -/
  | launched {run : RunId} {f : Feed} (hflights : t.flights = [.started run])
      (hcurrent : Current t.feeds run f) (hreceived : f.received = [])
      (hrunning : t.screen.running = false) (hpending : t.screen.pending = none)
      (hshown : t.shown = [])
  /-- The next event is waited for. -/
  | awaiting {run : RunId} {f : Feed} (hflights : t.flights = [.await run])
      (hcurrent : Current t.feeds run f) (hrun : t.screen.run = some run)
      (hrunning : t.screen.running = true) (hpending : t.screen.pending = none)
      (hshown : t.shown = linesOf run f.received)
  /-- An event is on its way to the screen. -/
  | reporting {run : RunId} {f : Feed} {event : Event} {events : List Event}
      (hflights : t.flights = [.event run event]) (hcurrent : Current t.feeds run f)
      (hreceived : f.received = events ++ [event]) (hrun : t.screen.run = some run)
      (hrunning : t.screen.running = true) (hpending : t.screen.pending = none)
      (hshown : t.shown = linesOf run events)
  /-- The run has asked for an answer, or its channel has been closed without a result. -/
  | resting {run : RunId} {f : Feed} (hflights : t.flights = []) (hcurrent : Current t.feeds run f)
      (hrun : t.screen.run = some run) (hrunning : t.screen.running = true)
      (hshown : t.shown = linesOf run f.received)
  /-- The result of the last run has been shown. -/
  | idle {run : RunId} {f : Feed} (hflights : t.flights = []) (hcurrent : Current t.feeds run f)
      (hover : f.producer = .over) (hrunning : t.screen.running = false)
      (hpending : t.screen.pending = none) (hshown : t.shown = linesOf run f.received)

/-- What all phases have in common. -/
theorem Phase.summary (h : t.Phase) : t.flights.length ≤ 1 ∧
    ((∀ f ∈ t.feeds, f.producer = .over) ∧ t.shown = [] ∨
      ∃ run f events, Current t.feeds run f ∧ events <+: f.received ∧
        t.shown = linesOf run events) := by
  cases h with
  | starting hflights hover _ _ hshown => exact ⟨by simp [hflights], .inl ⟨hover, hshown⟩⟩
  | @launched run f hflights hcurrent _ _ _ hshown =>
    exact ⟨by simp [hflights], .inr ⟨run, f, [], hcurrent, List.nil_prefix, hshown⟩⟩
  | @awaiting run f hflights hcurrent _ _ _ hshown =>
    exact ⟨by simp [hflights], .inr ⟨run, f, _, hcurrent, List.prefix_rfl, hshown⟩⟩
  | @reporting run f event events hflights hcurrent hreceived _ _ _ hshown =>
    exact ⟨by simp [hflights],
      .inr ⟨run, f, events, hcurrent, hreceived ▸ List.prefix_append _ _, hshown⟩⟩
  | @resting run f hflights hcurrent _ _ hshown =>
    exact ⟨by simp [hflights], .inr ⟨run, f, _, hcurrent, List.prefix_rfl, hshown⟩⟩
  | @idle run f hflights hcurrent _ _ _ hshown =>
    exact ⟨by simp [hflights], .inr ⟨run, f, _, hcurrent, List.prefix_rfl, hshown⟩⟩

/-- Whatever arrives is all that was in flight. -/
theorem Phase.flights_eq (h : t.Phase) {before after : List Flight} {g : Flight}
    (hflights : t.flights = before ++ g :: after) :
    before = [] ∧ after = [] ∧ t.flights = [g] := by
  have hlength := h.summary.1
  rw [hflights, List.length_append, List.length_cons] at hlength
  obtain rfl := List.length_eq_zero_iff.1 (show before.length = 0 by omega)
  obtain rfl := List.length_eq_zero_iff.1 (show after.length = 0 by omega)
  exact ⟨rfl, rfl, hflights⟩

/-- Nothing that matters has changed. -/
theorem Phase.of_keeps (h : t.Phase) (hrun' : t'.screen.run = t.screen.run)
    (hrunning' : t'.screen.running = t.screen.running)
    (hpending' : t'.screen.pending = t.screen.pending) (hflights : t'.flights = t.flights)
    (hfeeds : t'.feeds = t.feeds) (hshown : t'.shown = t.shown) : t'.Phase := by
  cases h with
  | starting hf hover hrunning hpending hs =>
    exact .starting (hflights.trans hf) (hfeeds ▸ hover) (hrunning'.trans hrunning)
      (hpending'.trans hpending) (hshown.trans hs)
  | launched hf hcurrent hreceived hrunning hpending hs =>
    exact .launched (hflights.trans hf) (hfeeds ▸ hcurrent) hreceived (hrunning'.trans hrunning)
      (hpending'.trans hpending) (hshown.trans hs)
  | awaiting hf hcurrent hrun hrunning hpending hs =>
    exact .awaiting (hflights.trans hf) (hfeeds ▸ hcurrent) (hrun'.trans hrun)
      (hrunning'.trans hrunning) (hpending'.trans hpending) (hshown.trans hs)
  | reporting hf hcurrent hreceived hrun hrunning hpending hs =>
    exact .reporting (hflights.trans hf) (hfeeds ▸ hcurrent) hreceived (hrun'.trans hrun)
      (hrunning'.trans hrunning) (hpending'.trans hpending) (hshown.trans hs)
  | resting hf hcurrent hrun hrunning hs =>
    exact .resting (hflights.trans hf) (hfeeds ▸ hcurrent) (hrun'.trans hrun)
      (hrunning'.trans hrunning) (hshown.trans hs)
  | idle hf hcurrent hover hrunning hpending hs =>
    exact .idle (hflights.trans hf) (hfeeds ▸ hcurrent) hover (hrunning'.trans hrunning)
      (hpending'.trans hpending) (hshown.trans hs)

/-! ### What may happen in which phase -/

/-- No run is being started. -/
def Calm (t : Theatre) : Prop := ∀ f ∈ t.flights, f.isStart = false

/-- Nobody presses the restart key while a run is being started. -/
def Patient (t : Theatre) (o : Occurrence) : Prop := o = .key (.typed ['r']) → t.Calm

theorem Reachable.background {script : Script} (h : Reachable script Patient t)
    (hstep : t.Step .background t') : Reachable script Patient t' := by
  have hpatient : t.Patient .background := nofun
  exact h.step hpatient hstep

theorem Phase.key (h : t.Phase) {key : Key} (hpatient : t.Patient (.key key)) :
    (t.react (.key key)).Phase := by
  have hfeeds := feeds_react t (.key key)
  have hscreen : (t.react (.key key)).screen = (t.screen.press key).screen := rfl
  have hflights : (t.react (.key key)).flights =
    t.flights ++ Flight.ofCommand (t.screen.press key).command := rfl
  have hshown : (t.react (.key key)).shown =
    if (t.screen.press key).command = some .start then [] else t.shown := rfl
  have hreacts := t.screen.reacts_press key
  generalize t.react (.key key) = u at hfeeds hscreen hflights hshown ⊢
  generalize t.screen.press key = r at hreacts hscreen hflights hshown
  cases hreacts with
  | moved _ viewport _ hcommand =>
    obtain rfl | rfl := hcommand <;>
    · rw [Flight.ofCommand, List.append_nil] at hflights
      exact h.of_keeps (hscreen ▸ rfl) (hscreen ▸ rfl) (hscreen ▸ rfl) hflights hfeeds hshown
  | edited _ _ =>
    rw [Flight.ofCommand, List.append_nil] at hflights
    exact h.of_keeps (hscreen ▸ rfl) (hscreen ▸ rfl) (hscreen ▸ rfl) hflights hfeeds hshown
  | answered hp _ =>
    cases h with
    | starting _ _ _ hpending _ | launched _ _ _ _ hpending _ | awaiting _ _ _ _ hpending _
    | reporting _ _ _ _ _ hpending _ | idle _ _ _ _ hpending _ => cases hpending.symm.trans hp
    | resting hf hcurrent hrun hrunning hs =>
      have hawait : t.screen.awaitRun = some (.await _) := congrArg (Option.map Command.await) hrun
      change u.flights = t.flights ++ Flight.ofCommand t.screen.awaitRun at hflights
      rw [hawait, hf] at hflights
      exact .awaiting hflights (hfeeds ▸ hcurrent) (hscreen ▸ hrun) (hscreen ▸ hrunning)
        (hscreen ▸ rfl) (hshown.trans ((if_neg t.screen.awaitRun_ne_start).trans hs))
  | restarted hp hrunning =>
    have hidle := hpatient rfl
    cases h with
    | starting hf _ _ _ _ | launched hf _ _ _ _ _ => cases hidle _ (hf ▸ List.mem_singleton_self _)
    | awaiting _ _ _ hrunning' _ _ | reporting _ _ _ _ hrunning' _ _
    | resting _ _ _ hrunning' _ => cases hrunning'.symm.trans hrunning
    | idle hf hcurrent hover _ _ _ =>
      rw [hf] at hflights
      refine .starting hflights (fun g hg => ?_) (hscreen ▸ hrunning) (hscreen ▸ hp) hshown
      obtain ⟨earlier, hall, -, hearlier⟩ := hcurrent
      rw [hfeeds, hall, List.mem_append, List.mem_singleton] at hg
      obtain hg | rfl := hg
      · exact hearlier g hg
      · exact hover

theorem Phase.launch (h : t.Phase) (hf : t.flights = [.start]) (n : Nat) :
    Phase { t with
      flights := [.started t.workers.length]
      workers := t.workers ++ [{ producer := .ofScript t.script n }] } := by
  cases h with
  | starting _ hover hrunning hpending hs =>
    have hcurrent : Current (feeds { t with
        workers := t.workers ++ [{ producer := .ofScript t.script n }] }) t.workers.length
        { producer := .ofScript t.script n } :=
      ⟨t.feeds, List.map_append, List.length_map _, hover⟩
    exact .launched rfl hcurrent rfl hrunning hpending hs
  | launched hf' _ _ _ _ _ | awaiting hf' _ _ _ _ _ | reporting hf' _ _ _ _ _ _
  | resting hf' _ _ _ _ | idle hf' _ _ _ _ _ => cases hf'.symm.trans hf

theorem Phase.begin (h : t.Phase) (hf : t.flights = [.started run]) :
    ({ t with flights := [] }.react (.started (some run))).Phase := by
  cases h with
  | launched hf' hcurrent hreceived hrunning hpending hs =>
    cases hf'.symm.trans hf
    refine .awaiting rfl ((feeds_react _ _).symm ▸ hcurrent) rfl rfl hpending ?_
    rw [hreceived]
    exact hs
  | starting hf' _ _ _ _ | awaiting hf' _ _ _ _ _ | reporting hf' _ _ _ _ _ _
  | resting hf' _ _ _ _ | idle hf' _ _ _ _ _ => cases hf'.symm.trans hf

theorem Phase.receive (h : t.Phase) (hf : t.flights = [.await run]) {w : Worker}
    (hworker : t.workers[run]? = some w) (event : Event) (rest : List Event) :
    Phase { t with
      flights := [.event run event]
      workers := t.workers.set run { w with channel := rest, received := w.received ++ [event] } } := by
  cases h with
  | awaiting hf' hcurrent hrun hrunning hpending hs =>
    cases hf'.symm.trans hf
    obtain rfl := hcurrent.eq_of_getElem? hworker
    exact .reporting rfl (hcurrent.set _) rfl hrun hrunning hpending hs
  | starting hf' _ _ _ _ | launched hf' _ _ _ _ _ | reporting hf' _ _ _ _ _ _
  | resting hf' _ _ _ _ | idle hf' _ _ _ _ _ => cases hf'.symm.trans hf

theorem Phase.close (h : t.Phase) (hf : t.flights = [.await run]) :
    Phase { t with flights := [] } := by
  cases h with
  | awaiting hf' hcurrent hrun hrunning hpending hs =>
    cases hf'.symm.trans hf
    exact .resting rfl hcurrent hrun hrunning hs
  | starting hf' _ _ _ _ | launched hf' _ _ _ _ _ | reporting hf' _ _ _ _ _ _
  | resting hf' _ _ _ _ | idle hf' _ _ _ _ _ => cases hf'.symm.trans hf

theorem Phase.report (h : t.Phase) (hsound : t.Sound) (hf : t.flights = [.event run event]) :
    (({ t with flights := [] }.react (Stage.report run event)).note run event).Phase := by
  cases h with
  | @reporting _ f _ events hf' hcurrent hreceived hrun hrunning hpending hs =>
    cases hf'.symm.trans hf
    have hcurrent' : Current (feeds ({ t with flights := [] }.react (Stage.report run event))) run f :=
      (feeds_react _ _).symm ▸ hcurrent
    have hshown : (({ t with flights := [] }.react (Stage.report run event)).note run event).shown =
        linesOf run f.received := by
      rw [shown_report, hreceived, linesOf_append]
      exact congrArg (· ++ _) hs
    match event with
    | .output o =>
      refine .awaiting ?_ hcurrent' hrun hrunning hpending hshown
      show [] ++ Flight.ofCommand (t.screen.run.map .await) = _
      rw [hrun]
      rfl
    | .request r => exact .resting rfl hcurrent' hrun hrunning hshown
    | .done result =>
      have hmem : f ∈ t.feeds := by
        obtain ⟨earlier, hfeeds, -, -⟩ := hcurrent
        rw [hfeeds]
        exact List.mem_append_right _ (List.mem_singleton_self f)
      have hover : f.producer = .over := hsound f hmem result (by simp [Feed.sent, hreceived])
      obtain ⟨failure, hreport⟩ := Screen.exists_report_done run result
      rw [hreport] at hcurrent' hshown ⊢
      cases failure <;> exact .idle rfl hcurrent' hover rfl rfl hshown
  | starting hf' _ _ _ _ | launched hf' _ _ _ _ _ | awaiting hf' _ _ _ _ _
  | resting hf' _ _ _ _ | idle hf' _ _ _ _ _ => cases hf'.symm.trans hf

theorem Phase.work (h : t.Phase) {i : Nat} {w w' : Worker} (hworker : t.workers[i]? = some w)
    (hstep : w.Step t.prompt w') : Phase { t with workers := t.workers.set i w' } := by
  have hreceived' := hstep.received
  cases h with
  | starting hf hover hrunning hpending hs =>
    exact absurd (hover _ (List.mem_map_of_mem (List.mem_of_getElem? hworker))) hstep.ne_over
  | launched hf hcurrent hreceived hrunning hpending hs =>
    obtain ⟨rfl, hcurrent'⟩ := hcurrent.work hworker hstep
    exact .launched hf hcurrent' (hreceived'.trans hreceived) hrunning hpending hs
  | awaiting hf hcurrent hrun hrunning hpending hs =>
    obtain ⟨rfl, hcurrent'⟩ := hcurrent.work hworker hstep
    exact .awaiting hf hcurrent' hrun hrunning hpending (hreceived' ▸ hs)
  | reporting hf hcurrent hreceived hrun hrunning hpending hs =>
    obtain ⟨rfl, hcurrent'⟩ := hcurrent.work hworker hstep
    exact .reporting hf hcurrent' (hreceived'.trans hreceived) hrun hrunning hpending hs
  | resting hf hcurrent hrun hrunning hs =>
    obtain ⟨rfl, hcurrent'⟩ := hcurrent.work hworker hstep
    exact .resting hf hcurrent' hrun hrunning (hreceived' ▸ hs)
  | idle hf hcurrent hover hrunning hpending hs =>
    obtain ⟨rfl, -⟩ := hcurrent.work hworker hstep
    exact absurd hover hstep.ne_over

theorem Phase.step {o : Occurrence} (h : t.Phase) (hsound : t.Sound) (hpatient : t.Patient o)
    (hstep : t.Step o t') : t'.Phase := by
  cases hstep with
  | key key => exact h.key hpatient
  | resize width height =>
    exact h.of_keeps rfl rfl rfl (List.append_nil _) (feeds_react t _) rfl
  | launch n hflights =>
    obtain ⟨rfl, rfl, hf⟩ := h.flights_eq hflights
    exact h.launch hf n
  | begin hflights =>
    obtain ⟨rfl, rfl, hf⟩ := h.flights_eq hflights
    exact h.begin hf
  | receive hflights hworker hchannel =>
    obtain ⟨rfl, rfl, hf⟩ := h.flights_eq hflights
    exact h.receive hf hworker _ _
  | close hflights hworker hover hchannel =>
    obtain ⟨rfl, rfl, hf⟩ := h.flights_eq hflights
    exact h.close hf
  | report hflights =>
    obtain ⟨rfl, rfl, hf⟩ := h.flights_eq hflights
    exact h.report hsound hf
  | work hworker hstep => exact h.work hworker hstep

/-! ### One run at a time -/

/-- There is one run at a time. -/
structure OneRun (t : Theatre) : Prop where
  /-- At most one run is live. -/
  live : ∀ (i j : RunId) (w v : Worker), t.workers[i]? = some w → t.workers[j]? = some v →
    w.Live → v.Live → i = j
  /-- At most one command waits for an event. -/
  awaits : t.flights.countP Flight.isAwait ≤ 1
  /-- All lines of output since the last restart come from the run that was started last. -/
  latest : ∀ x ∈ t.shown, x.1 + 1 = t.workers.length
  /-- They are the first lines that this run sent, in their order. -/
  order : ∀ w, t.workers.getLast? = some w →
    t.shown.map Prod.snd <+: w.sent.filterMap Event.line?

theorem Phase.oneRun (h : t.Phase) : t.OneRun := by
  obtain ⟨hlength, hlast⟩ := h.summary
  have hawaits := Nat.le_trans (List.countP_le_length (p := Flight.isAwait)) hlength
  obtain ⟨hover, hshown⟩ | ⟨run, f, events, hcurrent, hevents, hshown⟩ := hlast
  · refine ⟨fun i j w v hw hv hlive _ => ?_, hawaits, ?_, fun w hw => ?_⟩
    · exact absurd (hover _ (List.mem_map_of_mem (List.mem_of_getElem? hw))) hlive.1
    · rw [hshown]
      exact nofun
    · rw [hshown]
      exact List.nil_prefix
  · refine ⟨fun i j w v hw hv hlive hlive' => ?_, hawaits, fun x hx => ?_, fun w hw => ?_⟩
    · exact (hcurrent.index hw hlive.1).trans (hcurrent.index hv hlive'.1).symm
    · rw [hshown] at hx
      obtain ⟨line, -, rfl⟩ := List.mem_map.1 hx
      exact hcurrent.length.symm
    · rw [List.getLast?_eq_getElem?, hcurrent.length, Nat.add_sub_cancel] at hw
      obtain rfl := hcurrent.eq_of_getElem? hw
      rw [hshown, map_snd_linesOf]
      exact (hevents.trans (List.prefix_append _ _)).filterMap _

theorem Reachable.phase {script : Script} (h : Reachable script Patient t) : t.Phase ∧ t.Sound := by
  refine h.invariant (P := fun t => t.Phase ∧ t.Sound) ?_ fun ht hpatient hstep =>
    ⟨ht.1.step ht.2 hpatient hstep, ht.2.step hstep⟩
  exact ⟨.starting rfl nofun rfl rfl rfl, nofun⟩

/-- **One run at a time.**  As long as nobody presses the restart key while a run is being started,
however keys, changes of size, commands and runs take their turns, at most one run is live, at most
one command waits for an event, and the lines of output since the last restart are the first lines
that the last run sent, in their order, and stand in this order on the screen. -/
theorem oneRun_of_patient {script : Script} {t : Theatre} (h : Reachable script Patient t) :
    t.OneRun ∧ t.Listed := by
  have hlisted : t.Listed := h.invariant (List.Sublist.refl _) fun ht _ hstep => ht.step hstep
  exact ⟨h.phase.1.oneRun, hlisted⟩

/-- A script that prints one line. -/
def printing : Script := ⟨utf8 "a.fs", .ok (utf8 "print a;"), Settings.standard⟩

/-- Its run makes sure that it is not cancelled, and sends the line. -/
theorem exists_step_printing : ∃ p q text,
    Producer.Step (opening printing).prompt false (.ofScript printing 9) none p ∧
    Producer.Step (opening printing).prompt false p (some (.output ⟨text, false⟩)) q ∧
    q ≠ .over := by
  have htokens : tokenize (utf8 "print a;") = .ok [utf8 "print", utf8 "a", utf8 ";"] :=
    Lexicon.tokenize_of_toOption (by decide +kernel)
  have hparse : parse [utf8 "print", utf8 "a", utf8 ";"] = .ok [.print (utf8 "a")] := rfl
  have hprogram : printing.program = .ok [.print (utf8 "a")] := by
    simp only [Script.program, printing, htokens, hparse]
  unfold Producer.ofScript
  rw [hprogram]
  exact ⟨_, _, _, .poll _, .say _ _, Producer.noConfusion⟩

/-- The line is shown, and the restart key, which comes while the run is on, changes nothing. -/
theorem oneRun_of_patient_printing : ∃ t, Reachable printing Patient t ∧
    (∃ text, t.shown = [(0, text)]) ∧ t.OneRun ∧ t.Listed := by
  obtain ⟨p, q, text, hpoll, hsay, -⟩ := exists_step_printing
  have h₀ : Reachable printing Patient (opening printing) := .opening
  have h₁ := h₀.background (@Step.launch _ [] [] 9 rfl)
  have h₂ := h₁.background (@Step.begin _ [] [] 0 rfl)
  have h₃ := h₂.background (@Step.work _ 0 _ _ rfl (.work hpoll))
  have h₄ := h₃.background (@Step.work _ 0 _ _ rfl (.send hsay (Nat.zero_lt_succ 255)))
  have h₅ := h₄.background (@Step.receive _ [] [] 0 _ _ _ rfl rfl rfl)
  have h₆ := h₅.background (@Step.report _ [] [] 0 _ rfl)
  have h₇ := h₆.step (fun _ => List.forall_mem_singleton.2 rfl) (.key (.typed ['r']))
  exact ⟨_, h₇, ⟨text, rfl⟩, oneRun_of_patient h₇⟩

/-- **Impatience.**  When the restart key is pressed before the first run has been started, there
are two live runs, two events are waited for, and a line of the first run is shown. -/
theorem impatient_restart_doubles_run : ∃ t, Reachable printing (fun _ _ => True) t ∧
    (∃ w v, t.workers[0]? = some w ∧ t.workers[1]? = some v ∧ w.Live ∧ v.Live) ∧
    t.flights.countP Flight.isAwait = 2 ∧ ∃ x ∈ t.shown, x.1 + 1 ≠ t.workers.length := by
  obtain ⟨p, q, text, hpoll, hsay, hopen⟩ := exists_step_printing
  have h₀ : Reachable printing (fun _ _ => True) (opening printing) := .opening
  have h₁ := h₀.step trivial (.key (.typed ['r']))
  have h₂ := h₁.step trivial (@Step.launch _ [] [.start] 9 rfl)
  have h₃ := h₂.step trivial (@Step.launch _ [.started 0] [] 9 rfl)
  have h₄ := h₃.step trivial (@Step.begin _ [] [.started 1] 0 rfl)
  have h₅ := h₄.step trivial (@Step.begin _ [] [.await 0] 1 rfl)
  -- Of the two runs only the first goes on.
  have h₆ := h₅.step trivial (@Step.work _ 0 _ _ rfl (.work hpoll))
  have h₇ := h₆.step trivial (@Step.work _ 0 _ _ rfl (.send hsay (Nat.zero_lt_succ 255)))
  have h₈ := h₇.step trivial (@Step.receive _ [] [.await 1] 0 _ _ _ rfl rfl rfl)
  have h₉ := h₈.step trivial (@Step.report _ [] [.await 1] 0 _ rfl)
  refine ⟨_, h₉, ?_, rfl, ?_⟩
  · exact ⟨_, _, rfl, rfl, ⟨hopen, rfl⟩, ⟨hpoll.ne_over, rfl⟩⟩
  · exact ⟨(0, text), List.mem_singleton_self _, Nat.succ_ne_succ_iff.2 Nat.zero_ne_one⟩

end Theatre

end Scriptlet
