import Scriptlet.Proofs.Comparison
import Scriptlet.Proofs.Transcript

/-!
# Scriptlet.Proofs.SideBySide — two runs side by side

`d.Alike Q d'` says that two dialogues go through the same exchanges, whatever is answered, and end
with results that `Q` relates.  On the same console they then show the same lines and end together.
This is a comparison (`Comparison.exchanges`), so that two ways of running a program are compared by
saying which statements belong to each other.
-/

namespace Scriptlet

variable {ρ σ : Type}

namespace Dialogue

/-- The two dialogues have the same exchanges and related results. -/
inductive Alike (Q : ρ → σ → Prop) : Dialogue ρ → Dialogue σ → Prop
  | done {a : ρ} {b : σ} (h : Q a b) : Alike Q (.done a) (.done b)
  | say {text : Text} {d : Dialogue ρ} {d' : Dialogue σ} (h : Alike Q d d') :
    Alike Q (.say text d) (.say text d')
  | ask {name : Token} {f : Answer → Dialogue ρ} {f' : Answer → Dialogue σ}
    (h : ∀ a, Alike Q (f a) (f' a)) : Alike Q (.ask name f) (.ask name f')
  | poll {f : Bool → Dialogue ρ} {f' : Bool → Dialogue σ} (h : ∀ b, Alike Q (f b) (f' b)) :
    Alike Q (.poll f) (.poll f')
  | cut : Alike Q .cut .cut

theorem alike_refl (d : Dialogue ρ) : d.Alike Eq d := by
  induction d with
  | done result => exact .done rfl
  | say text next ih => exact .say ih
  | ask name next ih => exact .ask ih
  | poll next ih => exact .poll ih
  | cut => exact .cut

/-- Dialogues with the same exchanges and the same results are the same. -/
theorem Alike.eq {d d' : Dialogue ρ} (h : d.Alike Eq d') : d = d' := by
  induction h with
  | done h => rw [h]
  | say _ ih => rw [ih]
  | ask _ ih => rw [funext ih]
  | poll _ ih => rw [funext ih]
  | cut => rfl

/-- On the same console they end together, with the results that belong to each other. -/
theorem Alike.play_eq_map {g : ρ → σ} {d : Dialogue ρ} {d' : Dialogue σ}
    (h : d.Alike (fun a b => b = g a) d') (context : Context) (c : Console) :
    d'.play context c = (d.play context c).map fun x => (g x.1, x.2) := by
  induction h generalizing c with
  | done h =>
    subst h
    rfl
  | say _ ih => exact ih _
  | ask _ ih => exact ih _ _
  | poll _ ih => exact ih _ _
  | cut => rfl

theorem Alike.transcript_eq {Q : ρ → σ → Prop} {d : Dialogue ρ} {d' : Dialogue σ}
    (h : d.Alike Q d') (context : Context) (c : Console) :
    d'.transcript context c = d.transcript context c := by
  induction h generalizing c with
  | done _ => rfl
  | say _ ih => exact congrArg (List.cons _) (ih _)
  | ask _ ih => exact congrArg (List.cons _) (ih _ _)
  | poll _ ih => exact ih _ _
  | cut => rfl

end Dialogue

/-- The two dialogues have the same exchanges, also after a failure, and related results. -/
def Comparison.exchanges (Q : ρ → σ → Prop) : Comparison .any ρ σ where
  alike := Dialogue.Alike Q
  stopped _ := Dialogue.Alike Q
  cut := .cut
  say _ h := .say h
  ask _ hok hstop := by
    refine .ask fun answer => ?_
    cases answer with
    | ok raw => exact hok raw trivial
    | error fault => exact hstop fault
  poll hgo hstop := by
    refine .poll fun cancelled => ?_
    cases cancelled with
    | false => exact hgo
    | true => exact hstop
  raise _ _ h := h

/-- Two programs that keep equal functions hold the same dialogue. -/
theorem Action.Alike.report_eq {F : Function → Function → Prop} {x y : Action Report Unit}
    (h : Alike (.exchanges Eq) F Eq x y) (hF : ∀ f f', F f f' → f = f') :
    (x ⟨∅, ∅⟩ fun result s => .done ⟨result, s.frame, s.functions⟩) =
      y ⟨∅, ∅⟩ fun result s => .done ⟨result, s.frame, s.functions⟩ := by
  refine Dialogue.Alike.eq (h _ _ _ _ (RunState.alike_empty _ _) ⟨?_, ?_⟩)
  · intro _ _ s s' _ hs
    rw [hs.eq hF]
    exact .done rfl
  · intro e s s' hs
    rw [hs.eq hF]
    exact .done rfl

end Scriptlet
