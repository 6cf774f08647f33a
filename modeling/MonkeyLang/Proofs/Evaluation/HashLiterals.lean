import MonkeyLang.Proofs.Evaluation.Completion
import MonkeyLang.Proofs.Value.Equality

/-!
# Hash literals

The pairs of a hash literal are evaluated like the elements of an array, each key before its value
(`Evaluator.list_of_entries`), and the hash is built of the pairs of values in that order. So the
last pair under a key wins, and with it the value that the key comes from. The order only matters
among pairs under one key: pairs with different keys can be permuted, and the hashes are equal and
are indexed alike (`evaluate_hash`).
-/

set_option autoImplicit false

namespace MonkeyLang

/-! ## Pairs evaluated in a row -/

/-- The two parts of each pair, in a row. -/
def inRow {α : Type} (pairs : List (α × α)) : List α :=
  pairs.flatMap fun pair => [pair.1, pair.2]

namespace Evaluator

variable {evaluator : Evaluator} {frame : FrameId} {machine after : Machine}

/-- The entries of pairs of expressions are built of the values of their parts, which have come out
as in a row. -/
theorem list_of_entries {table result : HashTable} {pairs : List (Expression × Expression)}
    (ends : evaluator.entries frame table pairs machine = some (.value result, after)) :
    ∃ values, evaluator.list frame (inRow pairs) machine = some (.value (inRow values), after) ∧
      HashTable.insertAll table values = .ok result := by
  induction pairs generalizing table machine with
  | nil =>
      cases ends
      exact ⟨[], rfl, rfl⟩
  | cons pair rest ih =>
      obtain ⟨source, middle, keyRun, onward⟩ := Computation.of_bind_eq_value ends
      cases hashed : source.hashKey with
      | error cause =>
          rw [hashed] at onward
          cases onward
      | ok key =>
          rw [hashed] at onward
          obtain ⟨_, _, hashes, onward⟩ := Computation.of_bind_eq_value onward
          cases hashes
          obtain ⟨stored, later, valueRun, others⟩ := Computation.of_bind_eq_value onward
          obtain ⟨values, row, built⟩ := ih others
          have tail : evaluator.list frame (pair.2 :: inRow rest) middle =
              some (.value (stored :: inRow values), after) :=
            (Computation.bind_of_value valueRun _).trans (Computation.bind_of_value row _)
          refine ⟨(source, stored) :: values, ?_, ?_⟩
          · exact (Computation.bind_of_value keyRun _).trans (Computation.bind_of_value tail _)
          · rw [HashTable.insertAll, hashed]
            exact built

end Evaluator

/-! ## Evaluated hash literals -/

/-- Indexing a hash that was built of pairs: a position without a key is an error, and any other
finds what the last pair under its key holds, or null. -/
theorem applyIndex_insertAll {table : HashTable} {pairs : List (Value × Value)}
    (built : HashTable.insertAll [] pairs = .ok table) (position : Value) :
    (Value.hash table).applyIndex position =
      match position.hashKey with
      | .error _ => .error (.notHashable position.kind)
      | .ok key => .ok (((HashTable.lastUnder key pairs).map Prod.snd).getD .null) := by
  cases hashes : position.hashKey with
  | error cause =>
      rw [Value.applyIndex, hashes, Value.hashKey_eq_error hashes]
      rfl
  | ok key => rw [Value.applyIndex_hash hashes, HashTable.find?_insertAll built]

/-- A hash literal that has a value is built of the values of its parts. -/
theorem of_evaluate_hash {depth : Nat} {frame : FrameId} {pairs : List (Expression × Expression)}
    {machine after : Machine} {result : Value}
    (ends : evaluate depth frame (.hash pairs) machine = some (.value result, after)) :
    ∃ table values, result = .hash table ∧
      evaluate depth frame (.array (inRow pairs)) machine =
        some (.value (.array (inRow values)), after) ∧
      HashTable.insertAll [] values = .ok table := by
  cases depth with
  | zero => cases ends
  | succ depth =>
      obtain ⟨table, _, entries, done⟩ := Computation.of_bind_eq_value ends
      cases done
      obtain ⟨values, row, built⟩ := Evaluator.list_of_entries entries
      exact ⟨table, values, rfl, Computation.bind_of_value row _, built⟩

/-- **Hash literals are finite maps in which the last pair wins.** The parts of a hash literal that
has a value are evaluated like the elements of an array, and of the pairs of values it keeps, for
each key, the last one under this key, with the value that the key comes from. It has as many
entries as there are different keys. A position without a key is an error when it indexes the hash;
any other finds what is stored in the last pair under its key, or null. And pairs of values with
different keys, set in two orders, give equal hashes that are indexed alike. -/
theorem evaluate_hash :
    (∀ (depth : Nat) (frame : FrameId) (pairs : List (Expression × Expression))
        (machine after : Machine) (result : Value),
      evaluate depth frame (.hash pairs) machine = some (.value result, after) →
      ∃ table values, result = .hash table ∧
        evaluate depth frame (.array (inRow pairs)) machine =
          some (.value (.array (inRow values)), after) ∧
        (∀ position : Value, (Value.hash table).applyIndex position =
          match position.hashKey with
          | .error _ => .error (.notHashable position.kind)
          | .ok key => .ok (((HashTable.lastUnder key values).map Prod.snd).getD .null)) ∧
        table.length = (values.map fun pair => pair.1.hashKey).dedup.length ∧
        ∀ key, Table.find? key table = HashTable.lastUnder key values) ∧
    ∀ pairs pairs' : List (Value × Value), pairs.Perm pairs' →
      (∀ pair ∈ pairs, ∃ key, pair.1.hashKey = .ok key) →
      (pairs.map fun pair => pair.1.hashKey).Nodup →
      ∃ table table', HashTable.insertAll [] pairs = .ok table ∧
        HashTable.insertAll [] pairs' = .ok table' ∧
        (Value.hash table).equal (.hash table') = true ∧
        ∀ position, (Value.hash table).applyIndex position =
          (Value.hash table').applyIndex position := by
  constructor
  · intro depth frame pairs machine after result ends
    obtain ⟨table, values, same, row, built⟩ := of_evaluate_hash ends
    exact ⟨table, values, same, row, applyIndex_insertAll built, HashTable.length_insertAll built,
      HashTable.find?_insertAll built⟩
  · intro pairs pairs' perm hashable distinct
    obtain ⟨entries, keyed, rfl⟩ := HashTable.exists_wellKeyed hashable
    have built := HashTable.insertAll_map_snd keyed []
    exact ⟨_, _, built, HashTable.insertAll_of_perm perm distinct built, Value.equal_self _,
      fun _ => rfl⟩

/-- `{true: 1, 1: 2, true: 3}` keeps the third pair and not the first; and `{true: 1, 1: 2}` equals
`{1: 2, true: 1}`. -/
theorem evaluate_hash_last_wins :
    (∃ table values,
      evaluate 2 0 (.hash [(.boolean true, .integer 1), (.integer 1, .integer 2),
          (.boolean true, .integer 3)]) .initial = some (.value (.hash table), .initial) ∧
        evaluate 2 0 (.array [.boolean true, .integer 1, .integer 1, .integer 2, .boolean true,
          .integer 3]) .initial = some (.value (.array (inRow values)), .initial) ∧
        (Value.hash table).applyIndex (.boolean true) = .ok (.integer 3) ∧
        (Value.hash table).applyIndex .null = .error (.notHashable .null) ∧
        table.length = (values.map fun pair => pair.1.hashKey).dedup.length ∧
        HashTable.lastUnder (.boolean true) values = some (.boolean true, .integer 3)) ∧
    ∃ table table',
      HashTable.insertAll [] [(.boolean true, .integer 1), (.integer 1, .integer 2)] = .ok table ∧
        HashTable.insertAll [] [(.integer 1, .integer 2), (.boolean true, .integer 1)] =
          .ok table' ∧
        (Value.hash table).equal (.hash table') = true ∧
        ∀ position, (Value.hash table).applyIndex position =
          (Value.hash table').applyIndex position := by
  constructor
  · obtain ⟨table, values, same, row, index, count, kept⟩ :=
      evaluate_hash.1 2 0 [(.boolean true, .integer 1), (.integer 1, .integer 2),
        (.boolean true, .integer 3)] .initial .initial _ rfl
    cases same
    exact ⟨_, values, rfl, row, rfl, index .null, count, (kept (.boolean true)).symm⟩
  · refine evaluate_hash.2 _ _ (.swap _ _ []) ?_ (by decide)
    exact List.forall_mem_cons.mpr ⟨⟨_, rfl⟩, List.forall_mem_cons.mpr ⟨⟨_, rfl⟩,
      List.forall_mem_nil _⟩⟩

end MonkeyLang
