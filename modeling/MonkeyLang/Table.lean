/-!
# Tables

A table is a list of keys with their entries, kept in the order of the keys.
Setting a key replaces the entry that it has.  What a key is looked up as
depends only on the last time it was set (`find?_set_self`, `find?_set_of_ne`),
and these two laws need no assumption on the order of the list.
-/

set_option autoImplicit false

namespace MonkeyLang

/-- Keys with their entries, in the order of the keys. -/
abbrev Table (κ α : Type) := List (κ × α)

namespace Table

variable {κ α : Type} [DecidableEq κ]

/-- The entry of a key. -/
def find? (key : κ) : Table κ α → Option α
  | [] => none
  | (first, entry) :: rest => if key = first then some entry else find? key rest

/-- A table with the entry of a key set. -/
def set [LT κ] [DecidableLT κ] (key : κ) (entry : α) : Table κ α → Table κ α
  | [] => [(key, entry)]
  | (first, other) :: rest =>
    if key = first then (key, entry) :: rest
    else if key < first then (key, entry) :: (first, other) :: rest
    else (first, other) :: set key entry rest

/-- The keys of a table. -/
def keys (table : Table κ α) : List κ :=
  table.map Prod.fst

variable [LT κ] [DecidableLT κ]

/-- A key that was just set has the entry it was set to. -/
@[simp] theorem find?_set_self (key : κ) (entry : α) (table : Table κ α) :
    find? key (set key entry table) = some entry := by
  induction table with
  | nil => simp [set, find?]
  | cons head rest ih =>
    obtain ⟨first, other⟩ := head
    simp only [set]
    split
    · simp [find?]
    · next distinct =>
      split
      · simp [find?]
      · simp [find?, distinct, ih]

/-- Setting a key leaves the entries of the others as they were. -/
theorem find?_set_of_ne {key other : κ} (distinct : other ≠ key) (entry : α) (table : Table κ α) :
    find? other (set key entry table) = find? other table := by
  induction table with
  | nil => simp [set, find?, distinct]
  | cons head rest ih =>
    obtain ⟨first, present⟩ := head
    simp only [set]
    split
    · next same =>
      subst same
      simp [find?, distinct]
    · split
      · simp [find?, distinct]
      · simp [find?, ih]

end Table

end MonkeyLang
