import MonkeyLang.Proofs.Value.Hashes

/-!
# Equality of values

Equality looks inside arrays and hashes, but of a function or a macro it sees only the stamp. So two
values are equal exactly when they are the same once their closures are sealed, that is, have nothing
left but their stamps (`Value.equal_iff`). From this it follows at once that equality is an
equivalence relation.

No operation that reads a value looks inside a closure, so each does the same with a value as with
the sealed one, and equal values cannot be told apart (`Value.equality_is_congruence`).

A hash lists its entries in the order of their keys, and so equality compares them one by one. It
might as well look each key of one hash up in the other (`Value.equal_hash_iff`).
-/

set_option autoImplicit false

namespace MonkeyLang

/-! ## Sealed values -/

/-- The closure of which only the stamp is left. -/
def Closure.sealed (closure : Closure) : Closure :=
  ⟨[], [], 0, closure.stamp⟩

theorem Closure.sealed_eq_iff {left right : Closure} :
    left.sealed = right.sealed ↔ left.stamp = right.stamp := by
  simp [sealed]

namespace Value

mutual
/-- The value with all closures in it sealed. -/
def sealed : Value → Value
  | array elements => array (sealedList elements)
  | hash entries => hash (sealedEntries entries)
  | function closure => function closure.sealed
  | macroValue closure => macroValue closure.sealed
  | value => value

/-- The values with all closures in them sealed. -/
def sealedList : List Value → List Value
  | [] => []
  | value :: rest => value.sealed :: sealedList rest

/-- The entries with all closures in them sealed. -/
def sealedEntries :
    List (HashKey × (Value × Value)) → List (HashKey × (Value × Value))
  | [] => []
  | (key, (source, stored)) :: rest =>
    (key, (source.sealed, stored.sealed)) :: sealedEntries rest
end

mutual
/-- **Values are equal exactly when they are the same up to what is inside closures.** -/
theorem equal_iff : ∀ left right : Value,
    left.equal right = true ↔ left.sealed = right.sealed
  | integer _, right => by cases right <;> simp [equal, sealed]
  | boolean _, right => by cases right <;> simp [equal, sealed]
  | string _, right => by cases right <;> simp [equal, sealed]
  | null, right => by cases right <;> simp [equal, sealed]
  | array elements, right => by cases right <;> simp [equal, sealed, equalLists_iff elements]
  | hash entries, right => by cases right <;> simp [equal, sealed, equalEntries_iff entries]
  | function _, right => by cases right <;> simp [equal, sealed, Closure.sealed_eq_iff]
  | builtin _, right => by cases right <;> simp [equal, sealed]
  | error _, right => by cases right <;> simp [equal, sealed]
  | quote _, right => by cases right <;> simp [equal, sealed]
  | macroValue _, right => by cases right <;> simp [equal, sealed, Closure.sealed_eq_iff]

theorem equalLists_iff : ∀ lefts rights : List Value,
    equalLists lefts rights = true ↔ sealedList lefts = sealedList rights
  | [], rights => by cases rights <;> simp [equalLists, sealedList]
  | left :: lefts, rights => by
    cases rights <;> simp [equalLists, sealedList, equal_iff left, equalLists_iff lefts]

theorem equalEntries_iff : ∀ lefts rights : List (HashKey × (Value × Value)),
    equalEntries lefts rights = true ↔ sealedEntries lefts = sealedEntries rights
  | [], rights => by cases rights <;> simp [equalEntries, sealedEntries]
  | (key, (source, stored)) :: lefts, rights => by
    cases rights <;>
      simp [equalEntries, sealedEntries, equal_iff source, equal_iff stored,
        equalEntries_iff lefts, and_assoc]
end

theorem equal_self (value : Value) : value.equal value = true :=
  (equal_iff value value).mpr rfl

theorem equal_comm (left right : Value) : left.equal right = right.equal left := by
  rw [Bool.eq_iff_iff, equal_iff, equal_iff]
  exact eq_comm

theorem equal_trans {first second third : Value} (equal : first.equal second = true)
    (equal' : second.equal third = true) : first.equal third = true := by
  rw [equal_iff] at equal equal' ⊢
  exact equal.trans equal'

/-! ## What operations read of a value -/

@[simp]
theorem kind_sealed (value : Value) : value.sealed.kind = value.kind := by
  cases value <;> rfl

@[simp]
theorem isTruthy_sealed (value : Value) : value.sealed.isTruthy = value.isTruthy := by
  cases value <;> rfl

@[simp]
theorem hashKey_sealed (value : Value) : value.sealed.hashKey = value.hashKey := by
  cases value <;> rfl

@[simp]
theorem toSyntax_sealed (value : Value) : value.sealed.toSyntax = value.toSyntax := by
  cases value <;> rfl

@[simp]
theorem applyUnary_sealed (operator : UnaryOperator) (operand : Value) :
    operand.sealed.applyUnary operator = operand.applyUnary operator := by
  cases operator <;> cases operand <;> rfl

@[simp]
theorem applyBinary_sealed (left : Value) (operator : BinaryOperator) (right : Value) :
    left.sealed.applyBinary operator right.sealed = left.applyBinary operator right := by
  cases left <;> cases right <;> rfl

/-! ## Equal hashes -/

theorem sealedEntries_eq (entries : List (HashKey × (Value × Value))) :
    sealedEntries entries = Table.mapEntries (Prod.map sealed sealed) entries := by
  induction entries with
  | nil => rfl
  | cons first rest ih => exact congrArg ((first.1, (first.2.1.sealed, first.2.2.sealed)) :: ·) ih

/-- **Two hashes are equal exactly when they have equally many entries and each key of the one is
found in the other, with an equal value that it comes from and an equal value stored.** -/
theorem equal_hash_iff {left right : HashTable} (ordered : Table.Ordered left)
    (ordered' : Table.Ordered right) :
    (hash left).equal (hash right) = true ↔ left.length = right.length ∧
      ∀ key pair, Table.find? key left = some pair → ∃ pair', Table.find? key right = some pair' ∧
        pair.1.equal pair'.1 = true ∧ pair.2.equal pair'.2 = true := by
  have pairs : ∀ pair pair' : Value × Value,
      pair.1.equal pair'.1 = true ∧ pair.2.equal pair'.2 = true ↔
        Prod.map sealed sealed pair = Prod.map sealed sealed pair' := by
    intro pair pair'
    rw [equal_iff, equal_iff, Prod.ext_iff]
    rfl
  simp only [pairs]
  rw [equal, equalEntries_iff, sealedEntries_eq, sealedEntries_eq]
  constructor
  · intro same
    refine ⟨by simpa [Table.mapEntries] using congrArg List.length same, fun key pair found => ?_⟩
    have found' := congrArg (Table.find? key) same
    rw [Table.find?_mapEntries, Table.find?_mapEntries, found] at found'
    obtain ⟨pair', present, sealedSame⟩ := Option.map_eq_some_iff.mp found'.symm
    exact ⟨pair', present, sealedSame.symm⟩
  · rintro ⟨lengths, included⟩
    refine ordered.mapEntries.ext ordered'.mapEntries fun key => ?_
    rw [Table.find?_mapEntries, Table.find?_mapEntries]
    -- The keys of the left hash are keys of the right one, which has no more of them.
    have subset : Table.keys left ⊆ Table.keys right := by
      intro key mem
      obtain ⟨pair, found⟩ := Option.isSome_iff_exists.mp (Table.mem_keys_iff.mp mem)
      obtain ⟨pair', found', -⟩ := included key pair found
      exact Table.mem_keys_iff.mpr (found' ▸ rfl)
    have perm : (Table.keys left).Perm (Table.keys right) :=
      (List.subperm_of_subset ordered.nodup_keys subset).perm_of_length_le
        (by simp [Table.keys, lengths])
    cases found : Table.find? key left with
    | some pair =>
        obtain ⟨pair', found', same⟩ := included key pair found
        rw [found', Option.map_some, Option.map_some, same]
    | none =>
        have absent : ¬ key ∈ Table.keys right := by
          rw [← perm.mem_iff, Table.mem_keys_iff, found]
          exact Bool.false_ne_true
        rw [Table.mem_keys_iff, Option.not_isSome_iff_eq_none] at absent
        rw [absent]

/-! ## Equality as a congruence -/

/-- **Equality is an equivalence relation, and equal values cannot be told apart.** Every value
equals itself, equality goes both ways and from one value over another to a third. Hashes are equal
as finite maps are, whatever the order in which their keys were set. And equal values have the same
kind, count alike as true or false, have the same key or the same reason to have none, stand for the
same syntax or fail to alike, and have the same results under all operators, on either side of any
other operand. -/
theorem equality_is_congruence :
    (∀ value : Value, value == value) ∧
    (∀ left right : Value, left == right → right == left) ∧
    (∀ first second third : Value, first == second → second == third → first == third) ∧
    (∀ left right : HashTable, Table.Ordered left → Table.Ordered right →
      (hash left == hash right ↔ left.length = right.length ∧
        ∀ key pair, Table.find? key left = some pair →
          ∃ pair', Table.find? key right = some pair' ∧ pair.1 == pair'.1 ∧
            pair.2 == pair'.2)) ∧
    ∀ left right : Value, left == right →
      left.kind = right.kind ∧ left.isTruthy = right.isTruthy ∧ left.hashKey = right.hashKey ∧
      left.toSyntax = right.toSyntax ∧
      (∀ operator, left.applyUnary operator = right.applyUnary operator) ∧
      ∀ operator other, left.applyBinary operator other = right.applyBinary operator other ∧
        other.applyBinary operator left = other.applyBinary operator right := by
  refine ⟨equal_self, fun left right equal => (equal_comm right left).trans equal,
    fun _ _ _ => equal_trans, fun _ _ => equal_hash_iff, fun left right equal => ?_⟩
  have same : left.sealed = right.sealed := (equal_iff left right).mp equal
  refine ⟨?_, ?_, ?_, ?_, fun operator => ?_, fun operator other => ⟨?_, ?_⟩⟩
  · rw [← kind_sealed, same, kind_sealed]
  · rw [← isTruthy_sealed, same, isTruthy_sealed]
  · rw [← hashKey_sealed, same, hashKey_sealed]
  · rw [← toSyntax_sealed, same, toSyntax_sealed]
  · rw [← applyUnary_sealed, same, applyUnary_sealed]
  · rw [← applyBinary_sealed, same, applyBinary_sealed]
  · rw [← applyBinary_sealed, same, applyBinary_sealed]

/-- `{true: f, 1: [null]}` with its keys set in two orders, where `f` is one function; the arrays
that hold these hashes equal each other and fail alike when they are added to a string. With two
functions that only look alike the hashes differ. -/
theorem equality_is_congruence_hashes :
    let one : Value := function ⟨["x"], [], 0, 7⟩
    let other : Value := function ⟨["x"], [], 0, 8⟩
    let list : HashKey × (Value × Value) := (.integer 1, (integer 1, array [null]))
    let left : HashTable := Table.setAll [] [(.boolean true, (boolean true, one)), list]
    let right : HashTable := Table.setAll [] [list, (.boolean true, (boolean true, one))]
    let third : HashTable := Table.setAll [] [list, (.boolean true, (boolean true, other))]
    Table.Ordered left ∧ Table.Ordered right ∧ left.length = right.length ∧
      hash right == hash left ∧ array [hash left] == array [hash left] ∧
      (array [hash left]).applyBinary .add (string "s") =
        (array [hash right]).applyBinary .add (string "s") ∧
      (hash left == hash third) = false := by
  intro one other list left right third
  obtain ⟨refl, symm, trans, hashes, congruence⟩ := equality_is_congruence
  have ordered : Table.Ordered left := Table.ordered_nil.setAll _
  have ordered' : Table.Ordered right := Table.ordered_nil.setAll _
  have equal : hash left == hash right := by decide
  have equal' : array [hash left] == array [hash right] := by decide
  have same := congruence _ _ equal'
  exact ⟨ordered, ordered', ((hashes left right ordered ordered').mp equal).1, symm _ _ equal,
    trans _ _ _ equal' (symm _ _ equal'), (same.2.2.2.2.2 .add (string "s")).1, by decide⟩

end Value

end MonkeyLang
