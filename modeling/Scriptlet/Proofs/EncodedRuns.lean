import Scriptlet.Proofs.Comparison
import Scriptlet.Proofs.Encoding
import Scriptlet.Proofs.Transcript

/-!
# Scriptlet.Proofs.EncodedRuns — a run shows well-formed UTF-8 only

If the texts of a program and all answers are well-formed UTF-8, then so is everything that a run
puts out, and so is its complaint if it fails (`Session.isUtf8_of_run`).

`d.WellEncoded Q` says that the dialogue `d` says nothing else, as long as it is answered with
nothing else, and ends with results in `Q`.  The well-formed texts are an alphabet
(`Alphabet.encoded`), so that a run does not leave them.
-/

namespace Scriptlet

open Text

variable {ρ : Type}

/-! ### Dialogues -/

/-- An answer brings a well-formed text or a well-formed complaint. -/
def Answer.IsUtf8 : Answer → Prop
  | .ok raw => raw.IsUtf8
  | .error fault => fault.message.IsUtf8

/-- As long as the answers are well-formed, so is all that is said and asked, and the result is in
`Q`. -/
inductive Dialogue.WellEncoded (Q : ρ → Prop) : Dialogue ρ → Prop
  | done {result : ρ} (h : Q result) : WellEncoded Q (.done result)
  | say {text : Text} {next : Dialogue ρ} (ht : text.IsUtf8) (h : WellEncoded Q next) :
    WellEncoded Q (.say text next)
  | ask {name : Token} {next : Answer → Dialogue ρ} (hname : name.IsUtf8)
    (h : ∀ a : Answer, a.IsUtf8 → WellEncoded Q (next a)) : WellEncoded Q (.ask name next)
  | poll {next : Bool → Dialogue ρ} (h : ∀ b, WellEncoded Q (next b)) : WellEncoded Q (.poll next)
  | cut : WellEncoded Q .cut

/-- The dialogue is well-formed, and so it is after a failure with a well-formed complaint. -/
def Comparison.wellEncoded (Q : ρ → Prop) : Comparison .encoded ρ ρ where
  alike d _ := d.WellEncoded Q
  stopped e d _ := e.message.IsUtf8 → d.WellEncoded Q
  cut := .cut
  say ht h := .say ht h
  ask hname hok hstop := by
    refine .ask hname fun answer hanswer => ?_
    cases answer with
    | ok raw => exact hok raw hanswer
    | error fault =>
      exact hstop fault ((((isUtf8_utf8 _).append hname).append (isUtf8_utf8 _)).append hanswer)
  poll hgo hstop := by
    refine .poll fun cancelled => ?_
    cases cancelled with
    | false => exact hgo
    | true => exact hstop (isUtf8_utf8 _)
  raise _ he h := h he

/-- The complaint of a run that failed is well-formed. -/
def Report.IsUtf8 (report : Report) : Prop :=
  ∀ e, report.result = .error e → e.message.IsUtf8

theorem Program.dialogue_wellEncoded {p : Program} (hp : ∀ t ∈ p.texts, t.IsUtf8)
    (mode : ReturnMode) (n : Nat) : (p.dialogue mode n).WellEncoded Report.IsUtf8 := by
  refine Likeness.dialogue (.wellEncoded Report.IsUtf8) (.same .encoded mode) n (fun s _ _ => ?_)
    (fun e s _ _ hmessage => ?_) (Likeness.forall₂_same hp)
  · refine .done fun e he => ?_
    cases he
  · refine .done fun e' he => ?_
    obtain rfl := Except.error.inj he
    exact hmessage

/-! ### Runs -/

/-- The queue and the lines are well-formed, there is no provider, and a well-formed name makes a
well-formed prompt. -/
structure Console.WellEncoded (c : Console) : Prop where
  queue : ∀ t ∈ c.queue, t.IsUtf8
  outputs : ∀ o ∈ c.outputs.toList, o.text.IsUtf8
  provider : c.provider = none
  prompt : ∀ name : Token, name.IsUtf8 → (Prompt.expand c.prompt name).IsUtf8

namespace Console.WellEncoded

variable {c : Console}

theorem emit (h : c.WellEncoded) {o : Output} (ho : o.text.IsUtf8) : (c.emit o).WellEncoded := by
  refine ⟨h.queue, fun o' ho' => ?_, h.provider, h.prompt⟩
  rw [Console.emit, Array.toList_push] at ho'
  rcases List.mem_append.1 ho' with ho' | ho'
  · exact h.outputs o' ho'
  · rw [List.mem_singleton.1 ho']
    exact ho

theorem answer (h : c.WellEncoded) {name : Token} (hname : name.IsUtf8) :
    Answer.IsUtf8 (c.answer name).1 ∧ (c.answer name).2.WellEncoded := by
  cases hq : c.queue with
  | nil =>
    rw [Console.answer_of_none hq h.provider]
    exact ⟨isUtf8_utf8 _, h⟩
  | cons raw rest =>
    have hqueue := h.queue
    rw [hq] at hqueue
    obtain ⟨hraw, hrest⟩ := List.forall_mem_cons.1 hqueue
    have hc : Console.WellEncoded { c with queue := rest } :=
      ⟨hrest, h.outputs, h.provider, h.prompt⟩
    have hecho : IsUtf8 ((c.request name).prompt ++ raw) := (h.prompt name hname).append hraw
    rw [Console.answer_of_queue hq]
    refine ⟨hraw, ?_⟩
    dsimp only
    split
    · exact hc.emit hecho
    · exact hc

theorem look (h : c.WellEncoded) : c.look.WellEncoded :=
  ⟨h.queue, h.outputs, h.provider, h.prompt⟩

end Console.WellEncoded

theorem Dialogue.WellEncoded.play {Q : ρ → Prop} {d : Dialogue ρ} (h : d.WellEncoded Q)
    {context : Context} {c : Console} (hc : c.WellEncoded) {x : ρ × Console}
    (hx : d.play context c = some x) : Q x.1 ∧ x.2.WellEncoded := by
  induction h generalizing c with
  | done h =>
    obtain rfl := Option.some.inj hx
    exact ⟨h, hc⟩
  | say ht _ ih => exact ih (hc.emit ht) hx
  | ask hname _ ih =>
    obtain ⟨hanswer, hc'⟩ := hc.answer hname
    exact ih _ hanswer hc' hx
  | poll _ ih => exact ih _ hc.look hx
  | cut => cases hx

/-- **A run shows well-formed UTF-8 only**, in its lines and in its complaint. -/
theorem Session.isUtf8_of_run {s s' : Session} {context : Context} {n : Nat} {r : RunRecord}
    (hp : ∀ t ∈ s.program.texts, t.IsUtf8) (hc : s.console.WellEncoded)
    (h : s.run context n = some (r, s')) :
    (∀ o ∈ r.outputs, o.text.IsUtf8) ∧ ∀ e, r.result = .error e → e.message.IsUtf8 := by
  obtain ⟨x, hx, heq⟩ := Option.map_eq_some_iff.1 h
  obtain ⟨rfl, -⟩ := Prod.mk.inj heq
  obtain ⟨hreport, hc'⟩ := (Program.dialogue_wellEncoded hp s.mode n).play hc hx
  exact ⟨hc'.outputs, hreport⟩

end Scriptlet
