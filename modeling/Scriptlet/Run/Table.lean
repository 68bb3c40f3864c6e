import Scriptlet.Token.Class

/-!
# Scriptlet.Run.Table — finite maps from names

Variables and functions are kept in tables.  A table holds every name once; setting a name that is
there already replaces its entry in place.
-/

namespace Scriptlet

/-- A finite map from names. -/
structure Table (α : Type) where
  entries : List (Token × α)

namespace Table

variable {α : Type}

/-- The table without entries. -/
def empty : Table α := ⟨[]⟩

instance : EmptyCollection (Table α) := ⟨empty⟩

/-- The first entry of a name in a list of entries. -/
def findEntry (name : Token) : List (Token × α) → Option α
  | [] => none
  | e :: es => if e.1 = name then some e.2 else findEntry name es

/-- The entry of a name. -/
def get? (t : Table α) (name : Token) : Option α := findEntry name t.entries

/-- The entries with that of `name` replaced, or added at the end. -/
def setEntry (name : Token) (a : α) : List (Token × α) → List (Token × α)
  | [] => [(name, a)]
  | e :: es => if e.1 = name then (name, a) :: es else e :: setEntry name a es

/-- The table with a new entry for `name`. -/
def set (t : Table α) (name : Token) (a : α) : Table α := ⟨setEntry name a t.entries⟩

/-- The entries in the bytewise order of their names. -/
def sorted (t : Table α) : List (Token × α) := t.entries.mergeSort fun a b => !Text.lt b.1 a.1

/-- The names in bytewise order. -/
def names (t : Table α) : List Token := t.sorted.map (·.1)

theorem findEntry_setEntry (name other : Token) (a : α) (es : List (Token × α)) :
    findEntry other (setEntry name a es) = if other = name then some a else findEntry other es := by
  induction es with
  | nil =>
    simp only [setEntry, findEntry]
    by_cases h : other = name
    · simp [h]
    · simp [h, Ne.symm h]
  | cons e es ih =>
    by_cases he : e.1 = name
    · by_cases h : other = name
      · simp [setEntry, findEntry, he, h]
      · simp [setEntry, findEntry, he, h, Ne.symm h]
    · by_cases h : other = name
      · subst h
        simpa [setEntry, findEntry, he] using ih
      · simp only [h, if_false] at ih ⊢
        simp [setEntry, findEntry, he, ih]

theorem get?_set (t : Table α) (name other : Token) (a : α) :
    (t.set name a).get? other = if other = name then some a else t.get? other :=
  findEntry_setEntry name other a t.entries

@[simp] theorem get?_empty (name : Token) : (empty : Table α).get? name = none := rfl

end Table

end Scriptlet
