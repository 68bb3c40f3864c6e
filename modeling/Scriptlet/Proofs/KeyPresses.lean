import Scriptlet.Screen.Basic

/-!
# Scriptlet.Proofs.KeyPresses — what a key can do to a screen

`s.Reacts key r` says that `r` is one of the reactions that the screen `s` can have to a key, and
names what is required for it.  Main statement: a screen has no others (`Screen.reacts_press`).
What keys can and cannot do is read off these cases.
-/

namespace Scriptlet

namespace Screen

theorem awaitRun_ne_start (s : Screen) : s.awaitRun ≠ some .start := by
  unfold awaitRun
  cases s.run <;> simp

theorem awaitRun_ne_quit (s : Screen) : s.awaitRun ≠ some .quit := by
  unfold awaitRun
  cases s.run <;> simp

/-- The reactions to a key.  The window moves or the run is cancelled, or the script is restarted;
while a request is pending, the answer is edited or given. -/
inductive Reacts (s : Screen) : Key → Reaction → Prop where
  | moved {key : Key} (hidle : key.bare = .interrupt ∨ s.pending = none) (viewport : Viewport)
      {effects : List Effect} {command : Option Command}
      (heffects : effects = [] ∨ effects = s.cancelRun)
      (hcommand : command = none ∨ command = some .quit) :
    Reacts s key ⟨{ s with viewport }, effects, command⟩
  | restarted (hpending : s.pending = none) (hrunning : s.running = false) :
    Reacts s (.typed ['r'])
      ⟨{ { s with lines := [] }.refresh with status := .restarting }, s.cancelRun, some .start⟩
  | edited {q : Pending} {key : Key} (hpending : s.pending = some q) (henter : key.bare ≠ .enter) :
    Reacts s key { screen := { s with field := s.field.press key } }
  | answered {q : Pending} {key : Key} (hpending : s.pending = some q)
      (henter : key.bare = .enter) :
    Reacts s key (s.submit q)

theorem reacts_pressPending {s : Screen} {q : Pending} (hpending : s.pending = some q) (key : Key) :
    s.Reacts key (s.pressPending q key) := by
  unfold pressPending
  split
  · next henter => exact .answered hpending henter
  · next henter => exact .edited hpending henter

theorem reacts_pressIdle {s : Screen} (hpending : s.pending = none) (key : Key) :
    s.Reacts key (s.pressIdle key) := by
  unfold pressIdle
  split
  case h_1 => exact .moved (.inr hpending) s.viewport (.inr rfl) (.inr rfl)
  case h_2 hname =>
    split
    · exact .moved (.inr hpending) s.viewport (.inl rfl) (.inl rfl)
    · next hrunning =>
      obtain rfl := Key.eq_typed_of_name hname
      exact .restarted hpending (eq_false_of_ne_true hrunning)
  all_goals exact .moved (.inr hpending) _ (.inl rfl) (.inl rfl)

/-- A screen has no other reactions to keys. -/
theorem reacts_press (s : Screen) (key : Key) : s.Reacts key (s.press key) := by
  unfold press
  split
  · next hkey => exact .moved (.inl hkey) s.viewport (.inr rfl) (.inr rfl)
  · split
    · next hpending => exact reacts_pressPending hpending key
    · next hpending => exact reacts_pressIdle hpending key

/-- A screen asks for a start only while nothing is pending. -/
theorem pending_of_start {s : Screen} {key : Key} (h : (s.press key).command = some .start) :
    (s.press key).screen.pending = none := by
  have hreacts := s.reacts_press key
  generalize s.press key = r at h hreacts ⊢
  cases hreacts with
  | moved _ _ _ hcommand => obtain rfl | rfl := hcommand <;> cases h
  | restarted hpending _ => exact hpending
  | edited _ _ => cases h
  | answered _ _ => rfl

/-- A key does at most one thing at once. -/
theorem effects_press (s : Screen) (key : Key) :
    (s.press key).effects = [] ∨ ∃ effect, (s.press key).effects = [effect] := by
  have hcancel : s.cancelRun = [] ∨ ∃ effect, s.cancelRun = [effect] := by
    unfold cancelRun
    cases s.run with
    | none => exact .inl rfl
    | some run => exact .inr ⟨_, rfl⟩
  have hreacts := s.reacts_press key
  generalize s.press key = r at hreacts ⊢
  cases hreacts with
  | moved _ _ heffects _ =>
    obtain rfl | rfl := heffects
    · exact .inl rfl
    · exact hcancel
  | restarted _ _ => exact hcancel
  | edited _ _ => exact .inl rfl
  | answered _ _ => exact .inr ⟨_, rfl⟩

/-- Enter gives the answer to what is pending. -/
theorem press_enter {s : Screen} {q : Pending} (h : s.pending = some q) :
    s.press .enter = s.submit q := by
  rw [press, if_neg (by decide), h]
  exact if_pos rfl

/-- While a request is pending, every key but the interrupt edits the answer or gives it.  Only the
latter moves the window, to show the line that it adds. -/
theorem press_pending {s : Screen} {q : Pending} (h : s.pending = some q) {key : Key}
    (hkey : key.bare ≠ .interrupt) :
    (s.press key).command ≠ some .quit ∧ (s.press key).command ≠ some .start ∧
      (s.press key).screen.viewport =
        if key.bare = .enter then
          (s.append (Block.ofText (q.request.prompt ++ s.field.value))).viewport
        else s.viewport := by
  have hreacts := s.reacts_press key
  generalize s.press key = r at hreacts ⊢
  cases hreacts with
  | moved hidle _ _ _ =>
    obtain hidle | hidle := hidle
    · exact absurd hidle hkey
    · cases hidle.symm.trans h
  | restarted hpending _ => cases hpending.symm.trans h
  | edited _ henter => exact ⟨nofun, nofun, (if_neg henter).symm⟩
  | answered hpending henter =>
    cases hpending.symm.trans h
    exact ⟨s.awaitRun_ne_quit, s.awaitRun_ne_start, (if_pos henter).symm⟩

end Screen

end Scriptlet
