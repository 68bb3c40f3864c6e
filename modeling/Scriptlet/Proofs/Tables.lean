import Mathlib.Data.List.Forall2
import Scriptlet.Run.Table

/-!
# Scriptlet.Proofs.Tables — tables entry by entry

* `t.All P`: the property `P` holds of all entries.
* `t.Matches R t'`: the two tables have the same names in the same order, and `R` relates the
  entries of each name.
* `t.map g`: the table with `g` applied to all entries.
-/

namespace Scriptlet.Table

variable {α β : Type}

/-- All entries of the table have the property `P`. -/
def All (P : α → Prop) (t : Table α) : Prop := ∀ name a, t.get? name = some a → P a

theorem all_empty (P : α → Prop) : (∅ : Table α).All P := nofun

theorem All.set {P : α → Prop} {t : Table α} (h : t.All P) {a : α} (ha : P a) (name : Token) :
    (t.set name a).All P := by
  intro other b hb
  rw [get?_set] at hb
  split at hb
  · obtain rfl := Option.some.inj hb
    exact ha
  · exact h other b hb

/-- The table with all entries changed. -/
def map (g : α → β) (t : Table α) : Table β := ⟨t.entries.map fun e => (e.1, g e.2)⟩

theorem names_map (g : α → β) (t : Table α) : (t.map g).names = t.names := by
  -- the order looks at the names only
  have hsorted : (t.map g).sorted = t.sorted.map fun e => (e.1, g e.2) := by
    refine (List.map_mergeSort ?_).symm
    intro a _ b _
    rfl
  unfold names
  rw [hsorted, List.map_map]
  rfl

/-- The two tables have the same names, and related entries. -/
def Matches (R : α → β → Prop) (t : Table α) (t' : Table β) : Prop :=
  List.Forall₂ (fun e e' => e.1 = e'.1 ∧ R e.2 e'.2) t.entries t'.entries

variable {R : α → β → Prop} {t : Table α} {t' : Table β}

theorem matches_empty : (∅ : Table α).Matches R (∅ : Table β) := .nil

theorem matches_refl {R : α → α → Prop} (hR : ∀ a, R a a) (t : Table α) : t.Matches R t :=
  List.forall₂_same.2 fun e _ => ⟨rfl, hR e.2⟩

namespace Matches

theorem set (h : t.Matches R t') {a : α} {b : β} (hab : R a b) (name : Token) :
    (t.set name a).Matches R (t'.set name b) := by
  obtain ⟨entries⟩ := t
  obtain ⟨entries'⟩ := t'
  dsimp only [Matches] at h
  show List.Forall₂ _ (setEntry name a entries) (setEntry name b entries')
  induction h with
  | nil => exact .cons ⟨rfl, hab⟩ .nil
  | @cons e e' es es' he hes ih =>
    rw [setEntry, setEntry, he.1]
    split
    · exact .cons ⟨rfl, hab⟩ hes
    · exact .cons he ih

theorem get? (h : t.Matches R t') (name : Token) : Option.Rel R (t.get? name) (t'.get? name) := by
  obtain ⟨entries⟩ := t
  obtain ⟨entries'⟩ := t'
  dsimp only [Matches] at h
  show Option.Rel R (findEntry name entries) (findEntry name entries')
  induction h with
  | nil => exact .none
  | @cons e e' es es' he _ ih =>
    rw [findEntry, findEntry, he.1]
    split
    · exact .some he.2
    · exact ih

theorem eq_map {g : α → β} (h : t.Matches R t') (hg : ∀ a b, R a b → b = g a) : t' = t.map g := by
  obtain ⟨entries⟩ := t
  obtain ⟨entries'⟩ := t'
  refine congrArg Table.mk ?_
  dsimp only [Matches] at h
  induction h with
  | nil => rfl
  | cons he _ ih => rw [List.map_cons, ← ih, he.1, ← hg _ _ he.2]

theorem eq {R : α → α → Prop} {t t' : Table α} (h : t.Matches R t') (hR : ∀ a b, R a b → a = b) :
    t = t' := by
  rw [h.eq_map (g := id) fun a b hab => (hR a b hab).symm, map]
  simp

end Matches

end Scriptlet.Table
