import Mathlib.Data.List.Perm.Basic
import MonkeyLang.Proofs.Value.Tables
import MonkeyLang.Value.Operation

/-!
# Hashes that are built of pairs

The keys of hashes are totally ordered, so what is known of tables in order is known of hashes.
Building a hash of pairs sets the key of each pair in turn (`HashTable.insertAll`), and the hash
has for a key the last pair that is stored under it (`HashTable.find?_insertAll`).

Integers and booleans are stored under themselves, but a string under its digest. So two values have
one key exactly when they are equal up to the digests of strings (`Value.key_eq_iff`), and a hash
tells its keys apart to that degree (`keys_identify`). It is no finer: there are different strings
with one digest (`digests_collide`).
-/

set_option autoImplicit false

namespace MonkeyLang

/-! ## The order of keys -/

namespace HashKey

theorem digest_injective_of_sortRank {left right : HashKey} (sorts : left.sortRank = right.sortRank)
    (digests : left.digest = right.digest) : left = right := by
  cases left with
  | boolean value =>
      cases right with
      | boolean value' => revert value value'; decide
      | _ => cases sorts
  | integer value =>
      cases right with
      | integer value' =>
          obtain ⟨bits⟩ := value
          obtain ⟨bits'⟩ := value'
          exact congrArg (fun bits => integer ⟨bits⟩) digests
      | _ => cases sorts
  | string digest =>
      cases right with
      | string digest' => exact congrArg _ digests
      | _ => cases sorts

/-- No two keys have the same place. -/
theorem rank_injective : Function.Injective rank := by
  intro left right same
  have bound := left.digest.toNat_lt
  have bound' := right.digest.toNat_lt
  rw [rank, rank, UInt64.size] at same
  refine digest_injective_of_sortRank ?_ (UInt64.toNat_inj.mp ?_) <;> omega

instance : IsStrictTotalOrder HashKey (· < ·) where
  trichotomous _ _ notBefore notAfter :=
    rank_injective (Nat.le_antisymm (Nat.not_lt.mp notAfter) (Nat.not_lt.mp notBefore))
  irrefl key := Nat.lt_irrefl key.rank
  trans _ _ _ first second := Nat.lt_trans first second

end HashKey

/-! ## Keys of values -/

namespace Value

/-- Equal, or different strings with one digest. -/
def EqualUpToDigest (left right : Value) : Prop :=
  left.equal right = true ∨
    ∃ text text', left = .string text ∧ right = .string text' ∧ text ≠ text' ∧
      Digest.ofText text = Digest.ofText text'

/-- A value that has no key has none because of its kind. -/
theorem hashKey_eq_error {value : Value} {cause : RuntimeError}
    (unhashable : value.hashKey = .error cause) : cause = .notHashable value.kind := by
  cases value <;> cases unhashable <;> rfl

/-- **Values have one key exactly when they are equal up to the digests of strings.** -/
theorem key_eq_iff {left right : Value} {key key' : HashKey} (hashes : left.hashKey = .ok key)
    (hashes' : right.hashKey = .ok key') : key = key' ↔ left.EqualUpToDigest right := by
  cases left with
  | integer value =>
      cases hashes
      cases right <;> cases hashes' <;> simp [EqualUpToDigest, equal]
  | boolean value =>
      cases hashes
      cases right <;> cases hashes' <;> simp [EqualUpToDigest, equal]
  | string text =>
      cases hashes
      cases right with
      | string text' =>
          cases hashes'
          by_cases same : text = text' <;> simp [EqualUpToDigest, equal, same]
      | _ => cases hashes' <;> simp [EqualUpToDigest, equal]
  | _ => cases hashes

end Value

/-! ## Setting the key of each pair in turn -/

namespace HashTable

/-- A hash with the entries of pairs set one after the other. -/
def insertAll (table : HashTable) : List (Value × Value) → Except RuntimeError HashTable
  | [] => .ok table
  | (source, stored) :: rest => do
      let key ← source.hashKey
      insertAll (table.set key (source, stored)) rest

/-- Each entry stands under the key of the value that it comes from. -/
def WellKeyed (entries : List (HashKey × (Value × Value))) : Prop :=
  ∀ entry ∈ entries, entry.2.1.hashKey = .ok entry.1

/-- The last of some pairs that is stored under a key. -/
def lastUnder (key : HashKey) (pairs : List (Value × Value)) : Option (Value × Value) :=
  pairs.reverse.find? fun pair => pair.1.hashKey = .ok key

variable {entries : List (HashKey × (Value × Value))} {pairs : List (Value × Value)}
  {table result : HashTable} {key : HashKey}

theorem insertAll_map_snd (keyed : WellKeyed entries) (table : HashTable) :
    insertAll table (entries.map Prod.snd) = .ok (Table.setAll table entries) := by
  induction entries generalizing table with
  | nil => rfl
  | cons first rest ih =>
      obtain ⟨hashes, others⟩ := List.forall_mem_cons.mp keyed
      rw [List.map_cons, insertAll, hashes]
      exact ih others (table.set first.1 first.2)

/-- Pairs whose keys all have a place have entries. -/
theorem exists_wellKeyed (hashable : ∀ pair ∈ pairs, ∃ key, pair.1.hashKey = .ok key) :
    ∃ entries, WellKeyed entries ∧ entries.map Prod.snd = pairs := by
  induction pairs with
  | nil => exact ⟨[], List.forall_mem_nil _, rfl⟩
  | cons first rest ih =>
      obtain ⟨⟨key, hashes⟩, others⟩ := List.forall_mem_cons.mp hashable
      obtain ⟨entries, keyed, rfl⟩ := ih others
      exact ⟨(key, first) :: entries, List.forall_mem_cons.mpr ⟨hashes, keyed⟩, rfl⟩

/-- Pairs can be set only when all their keys have a place. -/
theorem hashable_of_insertAll (built : insertAll table pairs = .ok result) :
    ∀ pair ∈ pairs, ∃ key, pair.1.hashKey = .ok key := by
  induction pairs generalizing table with
  | nil => exact List.forall_mem_nil _
  | cons first rest ih =>
      rw [insertAll] at built
      cases hashes : first.1.hashKey with
      | error cause =>
          rw [hashes] at built
          cases built
      | ok key =>
          rw [hashes] at built
          exact List.forall_mem_cons.mpr ⟨⟨key, hashes⟩, ih built⟩

/-- A hash that was built of pairs is the table of their entries. -/
theorem of_insertAll (built : insertAll table pairs = .ok result) :
    ∃ entries, WellKeyed entries ∧ entries.map Prod.snd = pairs ∧
      result = Table.setAll table entries := by
  obtain ⟨entries, keyed, rfl⟩ := exists_wellKeyed (hashable_of_insertAll built)
  rw [insertAll_map_snd keyed] at built
  cases built
  exact ⟨entries, keyed, rfl, rfl⟩

/-- Under a key stands the first entry whose value has it. -/
theorem WellKeyed.find? (keyed : WellKeyed entries) (key : HashKey) :
    Table.find? key entries =
      (entries.map Prod.snd).find? fun pair => pair.1.hashKey = .ok key := by
  induction entries with
  | nil => rfl
  | cons first rest ih =>
      obtain ⟨hashes, others⟩ := List.forall_mem_cons.mp keyed
      rw [Table.find?, List.map_cons, List.find?_cons, hashes, ih others]
      by_cases same : key = first.1
      · simp [same]
      · simp [same, Ne.symm same]

/-- **A hash has for a key the last pair that is stored under it.** -/
theorem find?_insertAll (built : insertAll [] pairs = .ok result) (key : HashKey) :
    Table.find? key result = lastUnder key pairs := by
  obtain ⟨entries, keyed, rfl, rfl⟩ := of_insertAll built
  have keyed' : WellKeyed entries.reverse := fun entry mem =>
    keyed entry (List.mem_reverse.mp mem)
  rw [Table.find?_setAll, keyed'.find?, List.map_reverse]
  exact Option.or_none

/-- The keys of the pairs, read off their entries. -/
theorem WellKeyed.hashKeys_eq (keyed : WellKeyed entries) :
    ((entries.map Prod.snd).map fun pair => pair.1.hashKey) =
      (entries.map Prod.fst).map Except.ok := by
  rw [List.map_map, List.map_map]
  exact List.map_congr_left keyed

/-- A hash has as many entries as its pairs have different keys. -/
theorem length_insertAll (built : insertAll [] pairs = .ok result) :
    result.length = (pairs.map fun pair => pair.1.hashKey).dedup.length := by
  obtain ⟨entries, keyed, rfl, rfl⟩ := of_insertAll built
  rw [Table.length_setAll, keyed.hashKeys_eq,
    List.dedup_map_of_injective (fun _ _ => Except.ok.inj), List.length_map]

/-- Pairs with different keys build the same hash in every order. -/
theorem insertAll_of_perm {pairs' : List (Value × Value)} (perm : pairs.Perm pairs')
    (distinct : (pairs.map fun pair => pair.1.hashKey).Nodup)
    (built : insertAll [] pairs = .ok result) : insertAll [] pairs' = .ok result := by
  obtain ⟨entries, keyed, rfl, rfl⟩ := of_insertAll built
  have composed := List.eq_map_comp_perm (Prod.snd : HashKey × (Value × Value) → Value × Value)
  obtain ⟨entries', rfl, perm'⟩ :=
    (congrFun (congrFun composed pairs') entries).mpr perm.symm
  rw [keyed.hashKeys_eq] at distinct
  rw [insertAll_map_snd fun entry mem => keyed entry (perm'.mem_iff.mp mem),
    Table.setAll_of_perm perm'.symm distinct.of_map]

theorem wellKeyed_insertAll (built : insertAll [] pairs = .ok result) : WellKeyed result := by
  obtain ⟨entries, keyed, rfl, rfl⟩ := of_insertAll built
  intro entry mem
  exact keyed entry ((Table.mem_of_mem_setAll mem).resolve_right (List.not_mem_nil))

/-- The last pair under a key is one of the pairs, and its key is this one. -/
theorem of_lastUnder_eq_some {pair : Value × Value} (last : lastUnder key pairs = some pair) :
    pair ∈ pairs ∧ pair.1.hashKey = .ok key := by
  have found := List.find?_some last
  exact ⟨List.mem_reverse.mp (List.mem_of_find?_eq_some last), of_decide_eq_true found⟩

theorem lastUnder_eq_none :
    lastUnder key pairs = none ↔ ∀ pair ∈ pairs, pair.1.hashKey ≠ .ok key := by
  simp [lastUnder]

end HashTable

/-- Indexing a hash gives what is stored under the key of the position. -/
theorem Value.applyIndex_hash {table : HashTable} {position : Value} {key : HashKey}
    (hashes : position.hashKey = .ok key) :
    (Value.hash table).applyIndex position =
      .ok (((Table.find? key table).map Prod.snd).getD .null) := by
  rw [Value.applyIndex, hashes]
  rfl

/-! ## What keys tell apart -/

/-- **Keys tell values apart up to the digests of strings.** Integers, booleans and strings have
keys, and no other values do. Two values have the same key exactly when they are equal or are
different strings with one digest. So indexing a hash that was built of pairs gives what was stored
under a value that is equal to the position in this sense, or null when there is none; and setting a
key keeps every entry whose value is not equal in this sense to the one that is set. -/
theorem keys_identify :
    (∀ value : Value, (∃ key, value.hashKey = .ok key) ↔
      value.kind = .integer ∨ value.kind = .boolean ∨ value.kind = .string) ∧
    (∀ (left right : Value) (key key' : HashKey), left.hashKey = .ok key →
      right.hashKey = .ok key' → (key = key' ↔ left.EqualUpToDigest right)) ∧
    ∀ pairs : List (Value × Value), (∀ pair ∈ pairs, ∃ key, pair.1.hashKey = .ok key) →
      ∃ table, HashTable.insertAll [] pairs = .ok table ∧
        (∀ (position : Value) (key : HashKey), position.hashKey = .ok key →
          (∃ pair ∈ pairs, pair.1.EqualUpToDigest position ∧
            (Value.hash table).applyIndex position = .ok pair.2) ∨
          (∀ pair ∈ pairs, ¬ pair.1.EqualUpToDigest position) ∧
            (Value.hash table).applyIndex position = .ok .null) ∧
        ∀ (source stored : Value) (key : HashKey), source.hashKey = .ok key →
          ∀ entry ∈ table, ¬ source.EqualUpToDigest entry.2.1 →
            entry ∈ Table.set key (source, stored) table := by
  refine ⟨fun value => ?_, fun left right key key' => Value.key_eq_iff, fun pairs hashable => ?_⟩
  · cases value <;> simp [Value.hashKey, Value.kind]
  obtain ⟨entries, keyed, rfl⟩ := HashTable.exists_wellKeyed hashable
  have built := HashTable.insertAll_map_snd keyed []
  refine ⟨_, built, fun position key hashes => ?_,
    fun source stored key hashes entry mem other => ?_⟩
  · rw [Value.applyIndex_hash hashes, HashTable.find?_insertAll built]
    cases last : HashTable.lastUnder key (entries.map Prod.snd) with
    | some pair =>
        obtain ⟨mem, hashes'⟩ := HashTable.of_lastUnder_eq_some last
        exact .inl ⟨pair, mem, (Value.key_eq_iff hashes' hashes).mp rfl, rfl⟩
    | none =>
        refine .inr ⟨fun pair mem equal => ?_, rfl⟩
        obtain ⟨key', hashes'⟩ := hashable pair mem
        have same := (Value.key_eq_iff hashes' hashes).mpr equal
        exact HashTable.lastUnder_eq_none.mp last pair mem (same ▸ hashes')
  · have hashes' := HashTable.wellKeyed_insertAll built entry mem
    refine Table.mem_set_of_mem mem fun same => other ?_
    exact (Value.key_eq_iff hashes hashes').mp same.symm

/-- An integer and a boolean with the same digest: each has its own key, and `true` is not found
where `1` was stored. -/
theorem keys_identify_one_and_true :
    ((HashKey.integer 1 = HashKey.boolean true) ↔
      (Value.integer 1).EqualUpToDigest (.boolean true)) ∧
    ∃ table, HashTable.insertAll [] [(.integer 1, .string "one"), (.boolean true, .null)] =
        .ok table ∧
      (Value.hash table).applyIndex (.integer 1) = .ok (.string "one") ∧
      (HashKey.integer 1, (Value.integer 1, Value.string "one")) ∈
        Table.set (.boolean true) (.boolean true, .boolean false) table := by
  have apart : ¬ (Value.boolean true).EqualUpToDigest (.integer 1) := by
    simp [Value.EqualUpToDigest, Value.equal]
  obtain ⟨-, keys, hashes⟩ := keys_identify
  have hashable : ∀ pair ∈ [(Value.integer 1, Value.string "one"), (.boolean true, .null)],
      ∃ key, pair.1.hashKey = .ok key :=
    List.forall_mem_cons.mpr ⟨⟨_, rfl⟩, List.forall_mem_cons.mpr ⟨⟨_, rfl⟩, List.forall_mem_nil _⟩⟩
  obtain ⟨table, built, index, inserting⟩ := hashes _ hashable
  refine ⟨keys _ _ _ _ rfl rfl, table, built, ?_, ?_⟩
  · obtain ⟨pair, mem, equal, found⟩ | ⟨none, -⟩ := index (.integer 1) _ rfl
    · rcases List.mem_cons.mp mem with rfl | mem
      · exact found
      · cases List.mem_singleton.mp mem
        exact absurd equal apart
    · exact absurd (.inl (by decide)) (none _ List.mem_cons_self)
  · cases built
    exact inserting (.boolean true) (.boolean false) _ rfl _ (Table.mem_of_find? rfl) apart

/-- Two different strings with one digest: what is stored under the first is found under the
second. -/
theorem digests_collide :
    (Value.string "gMPflVXtwGDXbIhP73TX").hashKey = (Value.string "LtHf1prlU1bCeYZEdqWf").hashKey ∧
    (Value.string "gMPflVXtwGDXbIhP73TX").equal (.string "LtHf1prlU1bCeYZEdqWf") = false ∧
    ∃ table, HashTable.insertAll [] [(.string "gMPflVXtwGDXbIhP73TX", .integer 1)] = .ok table ∧
      (Value.hash table).applyIndex (.string "LtHf1prlU1bCeYZEdqWf") = .ok (.integer 1) := by
  have same : Digest.ofText "gMPflVXtwGDXbIhP73TX" = Digest.ofText "LtHf1prlU1bCeYZEdqWf" := by
    decide +kernel
  refine ⟨by rw [Value.hashKey, same, Value.hashKey], by decide, _, rfl, ?_⟩
  rw [Value.applyIndex_hash rfl, ← same, Table.set, Table.find?, if_pos rfl]
  rfl

end MonkeyLang
