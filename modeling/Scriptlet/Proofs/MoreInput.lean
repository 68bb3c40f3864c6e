import Scriptlet.Proofs.Comparison
import Scriptlet.Proofs.History

/-!
# Scriptlet.Proofs.MoreInput — more input only extends a run

Without a provider a run lives on its queue of answers.  If it does not run out of answers, then
what is behind them in the queue changes nothing and stays there.  If it does, then it has used up
the queue, and with more answers it would have gone on from there (`run_append_queue`).

* `d.Candid`: the dialogue `d` stops right where a request is refused, with the failure of that
  request, and it never puts such a failure forward for any other reason.
* `c.more extra`: the console `c` with the answers `extra` at the end of its queue.

Every program is candid (`dialogue_candid`).  A candid dialogue goes the same way on `c` and on
`c.more extra` until a request is refused on `c`.
-/

namespace Scriptlet

/-! ### Candid dialogues -/

namespace Dialogue

/-- The run stops where a request is refused, and fails with a request nowhere else. -/
inductive Candid : Dialogue Report → Prop
  | cut : Candid .cut
  | done {report : Report} (h : ∀ name fault, report.result ≠ .error (.read name fault)) :
    Candid (.done report)
  | say {text : Text} {next : Dialogue Report} (h : Candid next) : Candid (.say text next)
  | ask {name : Token} {next : Answer → Dialogue Report} (h : ∀ raw, Candid (next (.ok raw)))
    (hstop : ∀ fault, (next (.error fault)).FailsWith (.read name fault)) : Candid (.ask name next)
  | poll {next : Bool → Dialogue Report} (h : ∀ b, Candid (next b)) : Candid (.poll next)

theorem FailsWith.candid {d : Dialogue Report} {e : RunError} (h : d.FailsWith e)
    (he : ∀ name fault, e ≠ .read name fault) : d.Candid := by
  obtain ⟨report, rfl, hr⟩ := h
  refine .done fun name fault hread => ?_
  rw [hr] at hread
  exact he name fault (Except.error.inj hread)

end Dialogue

/-- The dialogue is candid, and a run that has failed is over. -/
def Comparison.candid : Comparison .any Report Report where
  alike d _ := d.Candid
  stopped e d _ := d.FailsWith e
  cut := .cut
  say _ h := .say h
  ask _ hok hstop := .ask (fun raw => hok raw trivial) hstop
  poll hgo hstop := by
    refine .poll fun cancelled => ?_
    cases cancelled with
    | false => exact hgo
    | true => exact hstop.candid nofun
  raise he _ h := h.candid he

theorem dialogue_candid (p : Program) (mode : ReturnMode) (n : Nat) :
    (p.dialogue mode n).Candid :=
  Likeness.dialogue .candid (.same .any mode) n (fun _ _ _ => .done nofun)
    (fun _ _ _ _ => ⟨_, rfl, rfl⟩) (Likeness.forall₂_same fun _ _ => trivial)

/-! ### A longer queue -/

namespace Console

/-- The console `c` with more answers at the end of its queue. -/
def more (c : Console) (extra : List Text) : Console := { c with queue := c.queue ++ extra }

variable {c : Console} {name : Token} {raw : Text} {rest : List Text}

/-- As long as there are answers in the queue, those behind them do not matter. -/
theorem answer_more (h : c.queue = raw :: rest) (name : Token) (extra : List Text) :
    (c.more extra).answer name = ((c.answer name).1, (c.answer name).2.more extra) := by
  have h' : (c.more extra).queue = raw :: (rest ++ extra) := by
    rw [more, h, List.cons_append]
  rw [answer_of_queue h, answer_of_queue h']
  dsimp only
  rw [apply_ite (more · extra)]
  rfl

theorem exchange_more (h : c.queue = raw :: rest) (name : Token) (extra : List Text) :
    (c.more extra).exchange name = c.exchange name := by
  have h' : (c.more extra).queue = raw :: (rest ++ extra) := by
    rw [more, h, List.cons_append]
  unfold exchange
  rw [h, h']
  rfl

theorem exchange_of_none (hq : c.queue = []) (hp : c.provider = none) :
    c.exchange name = .refused (c.request name) := by
  unfold exchange
  rw [hq, hp]

end Console

namespace Dialogue

variable {context : Context} {d : Dialogue Report} {c : Console}

theorem play_ask (name : Token) (next : Answer → Dialogue Report) :
    (Dialogue.ask name next).play context c =
      (next (c.answer name).1).play context (c.answer name).2 := rfl

/-- A run on a queue either never runs out of answers, and then goes the same way on a longer queue,
or it stops for want of an answer, with its queue used up. -/
theorem Candid.play_more (h : d.Candid) (hp : c.provider = none) {report : Report} {c' : Console}
    (hd : d.play context c = some (report, c')) (extra : List Text) :
    ((∀ name fault, report.result ≠ .error (.read name fault)) ∧
        d.play context (c.more extra) = some (report, c'.more extra)) ∨
      ((∃ name, report.result = .error (.read name .unavailable)) ∧ c'.queue = []) := by
  induction h generalizing c with
  | cut => cases hd
  | done hresult =>
    obtain ⟨rfl, rfl⟩ := Prod.mk.inj (Option.some.inj hd)
    exact .inl ⟨hresult, rfl⟩
  | say _ ih => exact ih (c := c.emit _) hp hd
  | @ask name next _ hstop ih =>
    cases hq : c.queue with
    | nil =>
      obtain ⟨report', hnext, hr⟩ := hstop .unavailable
      rw [play_ask, Console.answer_of_none hq hp, hnext] at hd
      obtain ⟨rfl, rfl⟩ := Prod.mk.inj (Option.some.inj hd)
      exact .inr ⟨⟨name, hr⟩, hq⟩
    | cons raw rest =>
      have hp' := (Console.advances_answer c name).provider.trans hp
      have hanswer : (c.answer name).1 = .ok raw := by rw [Console.answer_of_queue hq]
      rw [play_ask, hanswer] at hd
      rw [play_ask, Console.answer_more hq name extra, hanswer]
      exact ih raw hp' hd
  | poll _ ih => exact ih _ (c := c.look) hp hd

/-- What a run shows on a queue is the beginning of what it shows on a longer queue, however far it
is followed. -/
theorem Candid.shown_more (h : d.Candid) (hp : c.provider = none) (echo : Bool)
    (extra : List Text) :
    (d.transcript context c).filterMap (Exchange.shown? echo) <+:
      (d.transcript context (c.more extra)).filterMap (Exchange.shown? echo) := by
  induction h generalizing c with
  | cut => exact List.nil_prefix
  | done _ => exact List.nil_prefix
  | @say text next _ ih =>
    have hnext := ih (c := c.emit ⟨text, false⟩) hp
    exact List.cons_prefix_cons.2 ⟨rfl, hnext⟩
  | @ask name next _ hstop ih =>
    cases hq : c.queue with
    | nil =>
      -- the refused request is the last exchange, and it does not show
      obtain ⟨report, hnext, -⟩ := hstop .unavailable
      have hlast : (Dialogue.ask name next).transcript context c = [.refused (c.request name)] := by
        rw [transcript, Console.exchange_of_none hq hp, Console.answer_of_none hq hp, hnext]
        rfl
      rw [hlast]
      exact List.nil_prefix
    | cons raw rest =>
      have hp' := (Console.advances_answer c name).provider.trans hp
      have hanswer : (c.answer name).1 = .ok raw := by rw [Console.answer_of_queue hq]
      rw [transcript, transcript, Console.exchange_more hq, Console.answer_more hq name extra,
        hanswer, List.filterMap_cons, List.filterMap_cons]
      split
      · exact ih raw hp'
      · exact List.cons_prefix_cons.2 ⟨rfl, ih raw hp'⟩
  | poll _ ih => exact ih _ (c := c.look) hp

end Dialogue

/-! ### Runs -/

namespace Session

variable {s s' : Session} {context : Context} {n : Nat} {r : RunRecord}

/-- What a run takes, it takes from the front of the queue. -/
theorem queue_run (h : s.run context n = some (r, s')) :
    s.queue =
      ((s.program.dialogue s.mode n).transcript context s.console).filterMap Exchange.taken? ++
        s'.queue := by
  obtain ⟨⟨report, c'⟩, hplay, heq⟩ := Option.map_eq_some_iff.1 h
  obtain ⟨-, rfl⟩ := Prod.mk.inj heq
  exact (Dialogue.play_advances _ hplay).queue

/-- A run either fails for want of an answer, with its queue used up, or is the same with more
answers in the queue. -/
theorem run_enqueue (hp : s.provider = none) (h : s.run context n = some (r, s'))
    (extra : List Text) :
    ((∀ name, r.result ≠ .error (.read name .unavailable)) ∧
        (s.enqueue extra).run context n = some (r, s'.enqueue extra)) ∨
      ((∃ name, r.result = .error (.read name .unavailable)) ∧ s'.queue = []) := by
  obtain ⟨⟨report, c'⟩, hplay, heq⟩ := Option.map_eq_some_iff.1 h
  obtain ⟨rfl, rfl⟩ := Prod.mk.inj heq
  have hcandid := dialogue_candid s.program s.mode n
  rcases hcandid.play_more hp hplay extra with ⟨hread, hmore⟩ | hshort
  · exact .inl ⟨fun name => hread name _, Option.map_eq_some_iff.2 ⟨_, hmore, rfl⟩⟩
  · exact .inr hshort

theorem shown_enqueue (hp : s.provider = none) (context : Context) (n : Nat)
    (extra : List Text) : s.shown context n <+: (s.enqueue extra).shown context n :=
  (dialogue_candid s.program s.mode n).shown_more hp s.echo extra

/-- The lines of a run that is over are the first ones of a longer run, wherever that run is. -/
theorem outputs_enqueue (hp : s.provider = none) (h : s.run context n = some (r, s'))
    (extra : List Text) : ∀ m ≥ n, r.outputs <+: (s.enqueue extra).shown context m := by
  intro m hm
  rw [outputs_run (run_further hm h)]
  exact shown_enqueue hp context m extra

end Session

/-- **More input only extends a run.**  Let a session without a provider have the answers `queue` in
its queue, and let `extra` be more of them.

* If its run ends, but not for want of an answer, then the run on `queue ++ extra` is the same: it
  ends in the same way with the same lines, variables and functions, and `extra` is left in the
  queue, behind what was left before.
* If its run fails for want of an answer, then it has taken all of `queue`, in its order, and its
  lines are the first lines of the run on `queue ++ extra`, whether that run ends or not.
* However far the two runs are followed, the lines of the first are the first lines of the second. -/
theorem run_append_queue (s : Session) (context : Context) (queue extra : List Text) (n : Nat) :
    let on := fun answers => { s.setProvider none with queue := answers }
    (∀ r s', (on queue).run context n = some (r, s') →
      (∀ name, r.result ≠ .error (.read name .unavailable)) →
        (∃ taken, queue = taken ++ s'.queue) ∧
          (on (queue ++ extra)).run context n = some (r, { s' with queue := s'.queue ++ extra })) ∧
      (∀ r s' name, (on queue).run context n = some (r, s') →
        r.result = .error (.read name .unavailable) →
          (((s.program.dialogue s.mode n).transcript context (on queue).console).filterMap
              Exchange.taken? = queue ∧ s'.queue = []) ∧
            (∀ m ≥ n, r.outputs <+: (on (queue ++ extra)).shown context m) ∧
            ∀ m r' s'', (on (queue ++ extra)).run context m = some (r', s'') →
              r.outputs <+: r'.outputs) ∧
      (on queue).shown context n <+: (on (queue ++ extra)).shown context n := by
  intro on
  have hp : (on queue).provider = none := rfl
  refine ⟨fun r s' hrun hr => ?_, fun r s' name hrun hr => ?_,
    Session.shown_enqueue hp context n extra⟩
  · rcases Session.run_enqueue hp hrun extra with ⟨-, hmore⟩ | ⟨⟨name, hread⟩, -⟩
    · exact ⟨⟨_, Session.queue_run hrun⟩, hmore⟩
    · exact absurd hread (hr name)
  · rcases Session.run_enqueue hp hrun extra with ⟨hread, -⟩ | ⟨-, hqueue⟩
    · exact absurd hr (hread name)
    · have htaken := Session.queue_run hrun
      have houtputs := Session.outputs_enqueue hp hrun extra
      rw [hqueue, List.append_nil] at htaken
      refine ⟨⟨htaken.symm, hqueue⟩, houtputs, fun m r' s'' hrun' => ?_⟩
      -- a run that is over shows no more under a larger bound
      have hrun'' := Session.run_further (Nat.le_max_right n m) hrun'
      rw [Session.outputs_run hrun'']
      exact houtputs _ (Nat.le_max_left n m)

/-- A program that reads twice: it fails on one answer, and leaves the third of three answers. -/
theorem run_append_queue_twice :
    let x := utf8 "x"
    let ready := utf8 "ready"
    let s := Session.new [.read x, .print ready, .read x, .print x]
    let on := fun answers => { s.setProvider none with queue := answers }
    (∃ r s', (on [utf8 "a"]).run .never 9 = some (r, s') ∧ r.outputs = [⟨ready, false⟩] ∧
        r.result = .error (.read x .unavailable) ∧ s'.queue = [] ∧
        ∀ m ≥ 9, r.outputs <+: (on [utf8 "a", utf8 "b"]).shown .never m) ∧
      ∃ r s', (on [utf8 "a", utf8 "b"]).run .never 9 = some (r, s') ∧ r.result = .ok () ∧
        (on [utf8 "a", utf8 "b", utf8 "c"]).run .never 9 =
          some (r, { s' with queue := [utf8 "c"] }) := by
  intro x ready s on
  constructor
  · have hrun : (on [utf8 "a"]).run .never 9 = some _ := rfl
    obtain ⟨⟨-, hqueue⟩, hprefix, -⟩ :=
      (run_append_queue s .never [utf8 "a"] [utf8 "b"] 9).2.1 _ _ x hrun rfl
    exact ⟨_, _, hrun, rfl, rfl, hqueue, hprefix⟩
  · have hrun : (on [utf8 "a", utf8 "b"]).run .never 9 = some _ := rfl
    obtain ⟨-, hmore⟩ :=
      (run_append_queue s .never [utf8 "a", utf8 "b"] [utf8 "c"] 9).1 _ _ hrun nofun
    exact ⟨_, _, hrun, rfl, hmore⟩

end Scriptlet
