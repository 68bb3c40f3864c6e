import Scriptlet.Proofs.Approximation

/-!
# Scriptlet.Proofs.Cancellation — nothing happens after a cancellation

The effects of a run are its lines of output and the answers it gets, from the queue or from the
provider.  A run may be cancelled during any of them.  Between two effects it always looks whether
it has been cancelled: before each statement of a list, and after each pass of a loop.  So an effect
that leaves the run cancelled is the last one (`last_effect_of_cancelled`).

`Reaches` follows a dialogue exchange by exchange, so that one can speak of what a run has done so
far; `Settles` says what may be left of a run right after an effect.
-/

namespace Scriptlet

namespace Dialogue

variable {ρ : Type}

/-- `d` on the console `c` goes on until `d'` is left of it and the console is `c'`. -/
inductive Reaches (context : Context) : Dialogue ρ → Console → Dialogue ρ → Console → Prop
  | refl {d : Dialogue ρ} {c : Console} : Reaches context d c d c
  | say {text : Text} {next d' : Dialogue ρ} {c c' : Console}
    (h : Reaches context next (c.emit ⟨text, false⟩) d' c') :
    Reaches context (.say text next) c d' c'
  | ask {name : Token} {next : Answer → Dialogue ρ} {d' : Dialogue ρ} {c c' : Console}
    (h : Reaches context (next (c.answer name).1) (c.answer name).2 d' c') :
    Reaches context (.ask name next) c d' c'
  | poll {next : Bool → Dialogue ρ} {d' : Dialogue ρ} {c c' : Console}
    (h : Reaches context (next (c.cancelled context)) c.look d' c') :
    Reaches context (.poll next) c d' c'

/-- The next exchange of `d` is an effect: a line of output, or a request that brings an answer. -/
inductive Effect : Dialogue ρ → Console → Dialogue ρ → Console → Prop
  | say {text : Text} {next : Dialogue ρ} {c : Console} :
    Effect (.say text next) c next (c.emit ⟨text, false⟩)
  | ask {name : Token} {next : Answer → Dialogue ρ} {c c' : Console} {raw : Text}
    (h : c.answer name = (.ok raw, c')) : Effect (.ask name next) c (next (.ok raw)) c'

variable {context : Context} {w : Watch ρ} {d d' e : Dialogue ρ} {c c' : Console}

theorem Reaches.play (h : d.Reaches context c d' c') : d.play context c = d'.play context c' := by
  induction h with
  | refl => rfl
  | say _ ih => exact ih
  | ask _ ih => exact ih
  | poll _ ih => exact ih

theorem Effect.play (h : d.Effect c d' c') : d.play context c = d'.play context c' := by
  cases h with
  | say => rfl
  | ask h => rw [Dialogue.play, h]

theorem Reaches.further (h : d.Reaches context c d' c') (hd : d.Further w e) :
    ∃ e', e.Reaches context c e' c' ∧ d'.Further w e' := by
  induction h generalizing e with
  | refl => exact ⟨e, .refl, hd⟩
  | say _ ih =>
    cases hd with
    | say hnext _ =>
      obtain ⟨e', he, hd'⟩ := ih hnext
      exact ⟨e', .say he, hd'⟩
  | ask _ ih =>
    cases hd with
    | ask hnext _ _ =>
      obtain ⟨e', he, hd'⟩ := ih (hnext _)
      exact ⟨e', .ask he, hd'⟩
  | poll _ ih =>
    cases hd with
    | poll hnext _ =>
      obtain ⟨e', he, hd'⟩ := ih (hnext _)
      exact ⟨e', .poll he, hd'⟩

theorem Effect.further (h : d.Effect c d' c') (hd : d.Further w e) :
    ∃ e', e.Effect c e' c' ∧ w.after e' := by
  cases h with
  | say =>
    cases hd with
    | say _ hw => exact ⟨_, .say, hw⟩
  | ask h =>
    cases hd with
    | ask _ hw _ => exact ⟨_, .ask h, hw _⟩

/-- What is left of a run says nothing and asks nothing if the run is cancelled by now: it is over
with success, or it looks at once whether it is cancelled, and stops. -/
def Settles (d : Dialogue Report) (report : Report) : Prop :=
  (d = .done report ∧ report.result = .ok ()) ∨
    ∃ next, d = .poll next ∧ next true = .done report ∧ report.result = .error .canceled

theorem Settles.result {d : Dialogue Report} {report : Report} (h : d.Settles report) :
    report.result = .ok () ∨ report.result = .error .canceled := by
  rcases h with ⟨-, h⟩ | ⟨next, -, -, h⟩
  · exact .inl h
  · exact .inr h

theorem Settles.play {d : Dialogue Report} {report : Report} (h : d.Settles report)
    (hc : c.cancelled context) :
    d.play context c = some (report, c) ∨ d.play context c = some (report, c.look) := by
  rcases h with ⟨rfl, -⟩ | ⟨next, rfl, hnext, -⟩
  · exact .inl rfl
  · rw [Dialogue.play, hc, hnext]
    exact .inr rfl

end Dialogue

/-- The watch on what is left of a run after an effect. -/
def Watch.settling : Watch Report where
  after d := ∃ report, d.Settles report
  stop := Dialogue.FailsWith
  after_poll := fun ⟨report, hnext, hr⟩ => ⟨report, .inr ⟨_, rfl, hnext, hr⟩⟩

theorem dialogue_further_settling (p : Program) (mode : ReturnMode) (n : Nat) :
    (p.dialogue mode n).Further .settling (p.dialogue mode (n + 1)) :=
  dialogue_further (w := .settling) (fun _ _ => ⟨_, .inl ⟨rfl, rfl⟩⟩) (fun _ _ _ => ⟨_, rfl, rfl⟩) p
    mode (Nat.lt_succ_self n)

/-- A program that has something to do stops at once if it is cancelled before it starts. -/
theorem Session.run_cancelled {s : Session} {context : Context} (hc : s.console.cancelled context)
    (hp : s.program ≠ []) (n : Nat) :
    s.run context n =
      some (⟨.error .canceled, [], []⟩, { s with globals := ∅, functions := ∅ }) := by
  obtain ⟨stmt, rest, hs⟩ := List.exists_cons_of_ne_nil hp
  have hplay : (s.program.dialogue s.mode n).play context s.console =
      some (⟨.error .canceled, ∅, ∅⟩, s.console.look) := by
    rw [hs]
    show Dialogue.play context (if s.console.cancelled context then _ else _) s.console.look = _
    rw [if_pos hc]
    rfl
  rw [Session.run, hplay]
  rfl

/-- **An effect that leaves a run cancelled is its last.**  Let `d` be what is left of a run, on the
console `c`, before an effect, and `d'` and `c'` after it.  If the run is cancelled then, it ends
with success or with the cancellation error under every larger bound, and its lines, its requests,
and the rest of the queue are those of `c'`.  It succeeds only if it is over right after the effect.
A run that is cancelled before it starts has no effect at all, unless there is nothing to do. -/
theorem last_effect_of_cancelled (s : Session) (context : Context) :
    (∀ n d c d' c', (s.program.dialogue s.mode n).Reaches context s.console d c → d.Effect c d' c' →
      c'.cancelled context →
      ∃ report, (report.result = .ok () ∨ report.result = .error .canceled) ∧
        (∃ e e', (s.program.dialogue s.mode (n + 1)).Reaches context s.console e c ∧
          e.Effect c e' c' ∧ e'.Settles report) ∧
        ∀ m > n, s.run context m =
          some (⟨report.result, c'.outputs.toList, c'.requests.toList⟩,
            { s with
              queue := c'.queue
              asked := c'.asked
              globals := report.globals
              functions := report.functions })) ∧
      (s.console.cancelled context → s.program ≠ [] → ∀ n, s.run context n =
        some (⟨.error .canceled, [], []⟩, { s with globals := ∅, functions := ∅ })) := by
  refine ⟨fun n d c d' c' hreach heffect hc => ?_, fun hc hp n => Session.run_cancelled hc hp n⟩
  obtain ⟨e, he, hd⟩ := hreach.further (dialogue_further_settling s.program s.mode n)
  obtain ⟨e', he', report, hsettles⟩ := heffect.further hd
  refine ⟨report, hsettles.result, ⟨e, e', he, he', hsettles⟩, fun m hm => ?_⟩
  refine Session.run_further hm ?_
  rw [Session.run, he.play, he'.play]
  rcases hsettles.play hc with hplay | hplay <;> rw [hplay] <;> rfl

/-- A loop that would print for ever is cancelled at its second line, or before it starts. -/
theorem last_effect_of_cancelled_loop :
    let s := Session.new [.while ⟨utf8 "n", utf8 "==", utf8 "n"⟩ [.print (utf8 "n")]]
    let line : Output := ⟨utf8 "n", false⟩
    let atLine : Nat → Cancellation := fun k => ⟨some k, none⟩
    (∃ report : Report, (report.result = .ok () ∨ report.result = .error .canceled) ∧
      ∀ m > 7, s.run (atLine 2) m =
        some (⟨report.result, [line, line], []⟩,
          { s with globals := report.globals, functions := report.functions })) ∧
      ∀ n, s.run (atLine 0) n = some (⟨.error .canceled, [], []⟩, s) := by
  intro s line atLine
  have hreach : ∃ d c, (s.program.dialogue s.mode 7).Reaches (atLine 2) s.console
      (.say (utf8 "n") d) c ∧ c = { s.console.emit line with looks := 4 } :=
    ⟨_, _, .poll (.poll (.say (.poll (.poll .refl)))), rfl⟩
  obtain ⟨d, c, hd, rfl⟩ := hreach
  obtain ⟨report, hresult, -, hrun⟩ :=
    (last_effect_of_cancelled s (atLine 2)).1 7 _ _ _ _ hd .say (by decide)
  exact ⟨⟨report, hresult, hrun⟩, (last_effect_of_cancelled s (atLine 0)).2 (by decide) nofun⟩

end Scriptlet
