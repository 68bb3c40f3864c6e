import Scriptlet.Run.Session

/-!
# Scriptlet.Proofs.Transcript — what passes between a run and its console

A run acts on its console through lines of output and requests for input.  `Dialogue.transcript`
lists these exchanges in their order, as far as the run is followed.  All that a run changes on its
console can be read off the list (`Dialogue.play_advances`): the lines that a listener gets to see,
the answers taken from the queue, and the requests made to the provider.
-/

namespace Scriptlet

/-- A line of output, or a request with what it brought. -/
inductive Exchange where
  | line (text : Text)
  /-- The answer came from the queue. -/
  | queued (request : Request) (raw : Text)
  /-- The queue was empty, and the provider replied. -/
  | provided (request : Request) (reply : Answer)
  /-- The queue was empty, and there was no provider. -/
  | refused (request : Request)

namespace Exchange

/-- The line that a listener gets to see. -/
def shown? (echo : Bool) : Exchange → Option Output
  | line text => some ⟨text, false⟩
  | queued request raw => if echo then some ⟨request.prompt ++ raw, true⟩ else none
  | provided _ _ => none
  | refused _ => none

/-- The answer that was taken from the queue. -/
def taken? : Exchange → Option Text
  | queued _ raw => some raw
  | _ => none

/-- The request that was made to the provider. -/
def asked? : Exchange → Option Request
  | provided request _ => some request
  | _ => none

end Exchange

namespace Console

variable {c c' c'' : Console} {name : Token}

/-- The request for a variable. -/
def request (c : Console) (name : Token) : Request := ⟨name, Prompt.expand c.prompt name⟩

/-- What a request for a variable comes to. -/
def exchange (c : Console) (name : Token) : Exchange :=
  match c.queue, c.provider with
  | raw :: _, _ => .queued (c.request name) raw
  | [], some p => .provided (c.request name) (p.reply (c.request name :: c.asked))
  | [], none => .refused (c.request name)

/-! ### The three ways in which a request is answered -/

theorem answer_of_queue {raw : Text} {rest : List Text} (h : c.queue = raw :: rest) :
    c.answer name = (.ok raw,
      if c.echo then { c with queue := rest }.emit ⟨(c.request name).prompt ++ raw, true⟩
      else { c with queue := rest }) := by
  unfold answer
  rw [h]
  rfl

theorem answer_of_provider {p : Provider} (hq : c.queue = []) (hp : c.provider = some p) :
    c.answer name = (p.reply (c.request name :: c.asked),
      { c with
        asked := c.request name :: c.asked
        requests := c.requests.push (c.request name) }) := by
  unfold answer
  rw [hq, hp]
  rfl

theorem answer_of_none (hq : c.queue = []) (hp : c.provider = none) :
    c.answer name = (.error .unavailable, c) := by
  unfold answer
  rw [hq, hp]

/-! ### What changes on a console -/

/-- After the exchanges `xs` the console `c` has become `c'`. -/
structure Advances (xs : List Exchange) (c c' : Console) : Prop where
  prompt : c'.prompt = c.prompt
  echo : c'.echo = c.echo
  provider : c'.provider = c.provider
  outputs : c'.outputs.toList = c.outputs.toList ++ xs.filterMap (·.shown? c.echo)
  queue : c.queue = xs.filterMap (·.taken?) ++ c'.queue
  requests : c'.requests.toList = c.requests.toList ++ xs.filterMap (·.asked?)
  asked : c'.asked = (xs.filterMap (·.asked?)).reverse ++ c.asked

theorem Advances.refl (c : Console) : Advances [] c c :=
  ⟨rfl, rfl, rfl, by simp, by simp, by simp, by simp⟩

theorem Advances.trans {xs ys : List Exchange} (h : Advances xs c c') (h' : Advances ys c' c'') :
    Advances (xs ++ ys) c c'' := by
  have hecho := h.echo
  refine ⟨h'.prompt.trans h.prompt, h'.echo.trans hecho, h'.provider.trans h.provider, ?_, ?_, ?_, ?_⟩
  · rw [h'.outputs, h.outputs, hecho, List.filterMap_append, List.append_assoc]
  · rw [h.queue, h'.queue, List.filterMap_append, List.append_assoc]
  · rw [h'.requests, h.requests, List.filterMap_append, List.append_assoc]
  · rw [h'.asked, h.asked, List.filterMap_append, List.reverse_append, List.append_assoc]

theorem advances_emit (c : Console) (text : Text) :
    Advances [.line text] c (c.emit ⟨text, false⟩) :=
  ⟨rfl, rfl, rfl, by simp [emit, Exchange.shown?], by simp [emit, Exchange.taken?],
    by simp [emit, Exchange.asked?], by simp [emit, Exchange.asked?]⟩

theorem advances_look (c : Console) : Advances [] c c.look :=
  ⟨rfl, rfl, rfl, by simp [look], by simp [look], by simp [look], by simp [look]⟩

theorem advances_answer (c : Console) (name : Token) :
    Advances [c.exchange name] c (c.answer name).2 := by
  cases hq : c.queue with
  | cons raw rest =>
    have hx : c.exchange name = .queued (c.request name) raw := by
      unfold exchange
      rw [hq]
    rw [hx, answer_of_queue hq]
    cases he : c.echo with
    | true =>
      exact ⟨rfl, by simp [emit, he], rfl, by simp [emit, he, Exchange.shown?],
        by simp [emit, hq, Exchange.taken?], by simp [emit, Exchange.asked?],
        by simp [emit, Exchange.asked?]⟩
    | false =>
      exact ⟨rfl, by simp [he], rfl, by simp [he, Exchange.shown?], by simp [hq, Exchange.taken?],
        by simp [Exchange.asked?], by simp [Exchange.asked?]⟩
  | nil =>
    cases hp : c.provider with
    | none =>
      have hx : c.exchange name = .refused (c.request name) := by
        unfold exchange
        rw [hq, hp]
      rw [hx, answer_of_none hq hp]
      exact ⟨rfl, rfl, rfl, by simp [Exchange.shown?], by simp [Exchange.taken?],
        by simp [Exchange.asked?], by simp [Exchange.asked?]⟩
    | some p =>
      have hx : c.exchange name =
          .provided (c.request name) (p.reply (c.request name :: c.asked)) := by
        unfold exchange
        rw [hq, hp]
      rw [hx, answer_of_provider hq hp]
      exact ⟨rfl, rfl, hp.symm ▸ rfl, by simp [Exchange.shown?], by simp [hq, Exchange.taken?],
        by simp [Exchange.asked?], by simp [Exchange.asked?]⟩

end Console

namespace Dialogue

variable {ρ : Type}

/-- The exchanges of a dialogue with a console, as far as the dialogue is followed. -/
def transcript (context : Context) : Dialogue ρ → Console → List Exchange
  | .done _, _ => []
  | .say text next, c => .line text :: next.transcript context (c.emit ⟨text, false⟩)
  | .ask name next, c =>
    c.exchange name :: (next (c.answer name).1).transcript context (c.answer name).2
  | .poll next, c => (next (c.cancelled context)).transcript context c.look
  | .cut, _ => []

/-- **A transcript accounts for all that changes on the console.** -/
theorem play_advances {context : Context} (d : Dialogue ρ) {c : Console} {x : ρ × Console}
    (h : d.play context c = some x) : Console.Advances (d.transcript context c) c x.2 := by
  induction d generalizing c with
  | done result =>
    obtain rfl : (result, c) = x := Option.some.inj h
    exact .refl c
  | say text next ih => exact (Console.advances_emit c text).trans (ih h)
  | ask name next ih => exact (Console.advances_answer c name).trans (ih _ h)
  | poll next ih => exact (Console.advances_look c).trans (ih _ h)
  | cut => cases h

end Dialogue

end Scriptlet
