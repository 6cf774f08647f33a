import Mathlib.Data.List.Dedup
import Mathlib.Order.Defs.Unbundled
import MonkeyLang.Table

/-!
# Tables in the order of their keys

Setting a key keeps the keys in strictly increasing order (`Table.Ordered.set`). So a table that
was built by setting keys is told by what its keys are looked up as (`Table.Ordered.ext`): two
tables that answer every look-up alike are the same list of entries, whatever the order in which
their keys were set.

After any list of pairs was set in order, a key has the entry of the last pair with this key
(`Table.find?_setAll`), and there are as many entries as different keys (`Table.length_setAll`).
-/

set_option autoImplicit false

namespace MonkeyLang.Table

variable {κ α : Type} [DecidableEq κ] {key other : κ} {entry : α} {table left right : Table κ α}

/-! ## Entries -/

theorem mem_of_find? (found : table.find? key = some entry) : (key, entry) ∈ table := by
  induction table with
  | nil => cases found
  | cons first rest ih =>
      rw [find?] at found
      split at found
      · next same =>
        cases found
        subst same
        exact List.mem_cons_self
      · exact List.mem_cons_of_mem _ (ih found)

theorem find?_eq_none (absent : ∀ pair ∈ table, key ≠ pair.1) : table.find? key = none := by
  induction table with
  | nil => rfl
  | cons first rest ih =>
      obtain ⟨head, tail⟩ := List.forall_mem_cons.mp absent
      rw [find?, if_neg head, ih tail]

theorem mem_keys_iff : key ∈ table.keys ↔ (table.find? key).isSome := by
  induction table with
  | nil => simp [keys, find?]
  | cons first rest ih =>
      rw [find?]
      split
      · next same => simp [keys, same]
      · next other => simpa [keys, other] using ih

theorem find?_append (key : κ) (left right : Table κ α) :
    find? key (left ++ right) = (left.find? key).or (right.find? key) := by
  induction left with
  | nil => rfl
  | cons first rest ih =>
      rw [List.cons_append, find?, find?, ih]
      split <;> rfl

/-- Permuted pairs with different keys are looked up alike. -/
theorem find?_of_perm (perm : left.Perm right) (distinct : left.keys.Nodup) (key : κ) :
    left.find? key = right.find? key := by
  induction perm with
  | nil => rfl
  | cons first perm ih =>
      rw [find?, find?, ih (List.nodup_cons.mp distinct).2]
  | swap first second rest =>
      have differ : second.1 ≠ first.1 := by
        intro same
        exact (List.nodup_cons.mp distinct).1 (same ▸ List.mem_cons_self)
      simp only [find?]
      split
      · next same => rw [if_neg (same ▸ differ)]
      · rfl
  | trans perm _ ih ih' =>
      exact (ih distinct).trans (ih' ((perm.map Prod.fst).nodup_iff.mp distinct))

/-- A table with a function applied to every entry. -/
def mapEntries {β : Type} (f : α → β) (table : Table κ α) : Table κ β :=
  table.map (Prod.map id f)

theorem find?_mapEntries {β : Type} (f : α → β) (key : κ) (table : Table κ α) :
    (table.mapEntries f).find? key = (table.find? key).map f := by
  induction table with
  | nil => rfl
  | cons first rest ih =>
      rw [find?]
      split
      · next same => exact if_pos same
      · next other => exact (if_neg other).trans ih

section

variable [LT κ] [DecidableLT κ]

/-! ## Setting a key -/

theorem mem_of_mem_set {pair : κ × α} (mem : pair ∈ table.set key entry) :
    pair = (key, entry) ∨ pair ∈ table := by
  induction table with
  | nil => exact .inl (List.mem_singleton.mp mem)
  | cons first rest ih =>
      rw [set] at mem
      split at mem
      · rcases List.mem_cons.mp mem with rfl | mem
        · exact .inl rfl
        · exact .inr (List.mem_cons_of_mem _ mem)
      · split at mem
        · exact List.mem_cons.mp mem
        · rcases List.mem_cons.mp mem with rfl | mem
          · exact .inr List.mem_cons_self
          · exact (ih mem).imp_right (List.mem_cons_of_mem _)

theorem mem_set_of_mem {pair : κ × α} (mem : pair ∈ table) (distinct : pair.1 ≠ key) :
    pair ∈ table.set key entry := by
  induction table with
  | nil => cases mem
  | cons first rest ih =>
      rw [set]
      split
      · next same =>
        rcases List.mem_cons.mp mem with rfl | mem
        · exact absurd same.symm distinct
        · exact List.mem_cons_of_mem _ mem
      · split
        · exact List.mem_cons_of_mem _ mem
        · rcases List.mem_cons.mp mem with rfl | mem
          · exact List.mem_cons_self
          · exact List.mem_cons_of_mem _ (ih mem)

/-- Setting a key changes what this key is looked up as, and nothing else. -/
theorem find?_set (key other : κ) (entry : α) (table : Table κ α) :
    (table.set key entry).find? other = if other = key then some entry else table.find? other := by
  split
  · next same => rw [same, find?_set_self]
  · next distinct => exact find?_set_of_ne distinct entry table

/-- A table with the entries of pairs set in order. -/
def setAll (table : Table κ α) (pairs : List (κ × α)) : Table κ α :=
  pairs.foldl (fun table pair => table.set pair.1 pair.2) table

theorem mem_of_mem_setAll {pair : κ × α} {pairs : List (κ × α)}
    (mem : pair ∈ table.setAll pairs) : pair ∈ pairs ∨ pair ∈ table := by
  induction pairs generalizing table with
  | nil => exact .inr mem
  | cons first rest ih =>
      rcases ih mem with later | mem
      · exact .inl (List.mem_cons_of_mem _ later)
      · rcases mem_of_mem_set mem with rfl | mem
        · exact .inl List.mem_cons_self
        · exact .inr mem

/-- Of a key that was set, the last entry counts. -/
theorem find?_setAll (key : κ) (pairs : List (κ × α)) (table : Table κ α) :
    (table.setAll pairs).find? key = (find? key pairs.reverse).or (table.find? key) := by
  induction pairs generalizing table with
  | nil => rfl
  | cons first rest ih =>
      rw [List.reverse_cons, find?_append, Option.or_assoc]
      refine (ih (table.set first.1 first.2)).trans ?_
      rw [find?_set]
      simp only [find?]
      split <;> rfl

end

section

variable [LT κ]

/-! ## Order -/

/-- The keys get greater from entry to entry. -/
def Ordered (table : Table κ α) : Prop :=
  table.Pairwise fun first second => first.1 < second.1

omit [DecidableEq κ] in
theorem ordered_nil : Ordered ([] : Table κ α) :=
  List.Pairwise.nil

omit [DecidableEq κ] in
theorem Ordered.mapEntries {β : Type} {f : α → β} (ordered : table.Ordered) :
    (table.mapEntries f).Ordered :=
  ordered.map (Prod.map id f) fun _ _ before => before

variable [IsStrictTotalOrder κ (· < ·)]

omit [DecidableEq κ] in
theorem Ordered.nodup_keys (ordered : table.Ordered) : table.keys.Nodup := by
  refine List.pairwise_map.mpr (ordered.imp fun {first second} before same => ?_)
  exact irrefl_of (· < ·) second.1 (same ▸ before)

/-- **Tables in order that are looked up alike are the same.** -/
theorem Ordered.ext (ordered : left.Ordered) (ordered' : right.Ordered)
    (same : ∀ key, left.find? key = right.find? key) : left = right := by
  induction left generalizing right with
  | nil =>
      cases right with
      | nil => rfl
      | cons first rest => simpa [find?] using same first.1
  | cons first rest ih =>
      cases right with
      | nil => simpa [find?] using same first.1
      | cons first' rest' =>
          obtain ⟨least, further⟩ := List.pairwise_cons.mp ordered
          obtain ⟨least', further'⟩ := List.pairwise_cons.mp ordered'
          -- Were the first keys different, each would be the greater one.
          have keys : first.1 = first'.1 := by
            by_contra differ
            have found : find? first.1 rest' = some first.2 := by
              simpa [find?, differ] using (same first.1).symm
            have found' : find? first'.1 rest = some first'.2 := by
              simpa [find?, Ne.symm differ] using same first'.1
            exact irrefl_of (· < ·) first.1
              (trans_of (· < ·) (least _ (mem_of_find? found')) (least' _ (mem_of_find? found)))
          have entries : first.2 = first'.2 := by
            simpa [find?, keys] using same first.1
          have tails : ∀ key, find? key rest = find? key rest' := by
            intro key
            by_cases here : key = first.1
            · have absent : ∀ pair ∈ rest, key ≠ pair.1 := by
                intro pair mem equal
                have before := least pair mem
                rw [← here, equal] at before
                exact irrefl_of (· < ·) pair.1 before
              have absent' : ∀ pair ∈ rest', key ≠ pair.1 := by
                intro pair mem equal
                have before := least' pair mem
                rw [← keys, ← here, equal] at before
                exact irrefl_of (· < ·) pair.1 before
              rw [find?_eq_none absent, find?_eq_none absent']
            · simpa [find?, here, keys ▸ here] using same key
          rw [Prod.ext keys entries, ih further further' tails]

variable [DecidableLT κ]

/-- Setting a key keeps the order. -/
theorem Ordered.set (ordered : table.Ordered) (key : κ) (entry : α) :
    (table.set key entry).Ordered := by
  induction table with
  | nil => exact List.pairwise_singleton _ _
  | cons first rest ih =>
      obtain ⟨least, further⟩ := List.pairwise_cons.mp ordered
      rw [Table.set]
      split
      · next same =>
        subst same
        exact List.pairwise_cons.mpr ⟨least, further⟩
      · next distinct =>
        split
        · next before =>
          refine List.pairwise_cons.mpr ⟨fun pair mem => ?_, ordered⟩
          rcases List.mem_cons.mp mem with rfl | mem
          · exact before
          · exact trans_of (· < ·) before (least pair mem)
        · next notBefore =>
          have after : first.1 < key :=
            ((trichotomous_of (· < ·) key first.1).resolve_left notBefore).resolve_left distinct
          refine List.pairwise_cons.mpr ⟨fun pair mem => ?_, ih further⟩
          rcases mem_of_mem_set mem with rfl | mem
          · exact after
          · exact least pair mem

theorem Ordered.setAll (ordered : table.Ordered) (pairs : List (κ × α)) :
    (table.setAll pairs).Ordered := by
  induction pairs generalizing table with
  | nil => exact ordered
  | cons first rest ih => exact ih (ordered.set first.1 first.2)

/-- There are as many entries as different keys among those that were set. -/
theorem length_setAll (pairs : List (κ × α)) :
    (setAll [] pairs).length = (pairs.map Prod.fst).dedup.length := by
  have same : (setAll [] pairs).keys.Perm (pairs.map Prod.fst).dedup := by
    refine (List.perm_ext_iff_of_nodup (ordered_nil.setAll pairs).nodup_keys
      (List.nodup_dedup _)).mpr fun key => ?_
    rw [mem_keys_iff, find?_setAll, find?, Option.or_none, ← mem_keys_iff, keys,
      List.map_reverse, List.mem_reverse, List.mem_dedup]
  rw [← same.length_eq, keys, List.length_map]

/-- The order in which different keys are set does not matter. -/
theorem setAll_of_perm {pairs pairs' : List (κ × α)} (perm : pairs.Perm pairs')
    (distinct : (pairs.map Prod.fst).Nodup) : setAll [] pairs = setAll [] pairs' := by
  refine (ordered_nil.setAll pairs).ext (ordered_nil.setAll pairs') fun key => ?_
  have distinct' : keys pairs.reverse |>.Nodup := by
    rw [keys, List.map_reverse]
    exact List.nodup_reverse.mpr distinct
  rw [find?_setAll, find?_setAll, find?_of_perm
    ((pairs.reverse_perm.trans perm).trans pairs'.reverse_perm.symm) distinct']

end

end MonkeyLang.Table
