import MonkeyLang.Proofs.Value.Equality

/-!
# Comparing values by operators

`==` and `!=` have a value on two integers, on two strings, and on booleans and null in any mix
(`Value.comparable`). There they say whether the two values are equal, and everywhere else they fail
(`Value.applyBinary_of_isEquality`). `<` and `>` have a value on two integers only
(`Value.incomparable_of_isOrder`).

Whether two values can be compared does not depend on their order, and which of the two errors a
comparison ends with depends on their kinds alone. So the comparisons of two values agree with each
other, on their result and on their failure (`Value.comparisons_agree`).
-/

set_option autoImplicit false

namespace MonkeyLang

/-- The operators that ask which of two values comes first. -/
def BinaryOperator.isOrder : BinaryOperator → Bool
  | less | greater => true
  | _ => false

namespace Value

/-! ## Values that can be compared -/

/-- Whether it can be asked if two values are the same: of integers, of strings, and of booleans and
null in any mix. -/
def comparable : Value → Value → Bool
  | integer _, integer _ | string _, string _ => true
  | left, right => left.isTruthValue && right.isTruthValue

theorem comparable_comm (left right : Value) :
    left.comparable right = right.comparable left := by
  cases left <;> cases right <;> rfl

/-- The operator has no value on the operands, which the error names in the order written: as a
mismatch if their kinds differ, and as an undefined operation if they are of one kind. -/
def Incomparable (left : Value) (operator : BinaryOperator) (right : Value) : Prop :=
  left.kind ≠ right.kind ∧
      left.applyBinary operator right = .error (.mismatch left.kind operator right.kind) ∨
    left.kind = right.kind ∧
      left.applyBinary operator right = .error (.binaryUndefined left.kind operator right.kind)

variable {left right : Value} {operator : BinaryOperator}

theorem incomparable_of_eq
    (fails : left.applyBinary operator right = .error (binaryError left operator right)) :
    left.Incomparable operator right := by
  rw [binaryError] at fails
  by_cases kinds : left.kind = right.kind
  · exact .inr ⟨kinds, fails.trans (congrArg _ (if_pos kinds))⟩
  · exact .inl ⟨kinds, fails.trans (congrArg _ (if_neg kinds))⟩

/-! ## The comparisons one by one -/

/-- **Where values can be compared, `==` and `!=` tell whether they are equal.** -/
theorem applyBinary_of_isEquality (equality : operator.isEquality = true) (left right : Value) :
    left.applyBinary operator right =
      if left.comparable right then
        .ok (.boolean (left.equal right == decide (operator = .equal)))
      else
        .error (binaryError left operator right) := by
  cases left with
  | integer value =>
      cases right with
      | integer value' =>
          cases operator <;> cases equality <;>
            simp [applyBinary, applyToIntegers, comparable, equal, bne]
      | _ => rfl
  | string text =>
      cases right with
      | string text' =>
          cases operator <;> cases equality <;>
            simp [applyBinary, applyToStrings, comparable, equal, bne]
      | _ => rfl
  | _ => simp [applyBinary, comparable, equality]

theorem applyBinary_equal (comparable : left.comparable right = true) :
    left.applyBinary .equal right = .ok (.boolean (left == right)) := by
  rw [applyBinary_of_isEquality rfl, if_pos comparable]
  exact congrArg (fun same => Except.ok (boolean same)) (beq_true _)

theorem applyBinary_notEqual (comparable : left.comparable right = true) :
    left.applyBinary .notEqual right = .ok (.boolean !(left == right)) := by
  rw [applyBinary_of_isEquality rfl, if_pos comparable]
  exact congrArg (fun same => Except.ok (boolean same)) (beq_false _)

theorem incomparable_of_isEquality (equality : operator.isEquality = true)
    (other : left.comparable right = false) : left.Incomparable operator right := by
  refine incomparable_of_eq ?_
  rw [applyBinary_of_isEquality equality, if_neg (ne_true_of_eq_false other)]

/-- **`<` and `>` compare integers, and nothing else.** -/
theorem incomparable_of_isOrder (order : operator.isOrder = true)
    (other : left.kind ≠ .integer ∨ right.kind ≠ .integer) : left.Incomparable operator right := by
  refine incomparable_of_eq ?_
  have unequal : operator.isEquality = false := by
    cases operator <;> cases order <;> rfl
  cases left with
  | integer value =>
      cases right with
      | integer value' => simp [kind] at other
      | _ => rfl
  | string text =>
      cases right with
      | string text' => cases operator <;> cases order <;> rfl
      | _ => rfl
  | _ => simp [applyBinary, unequal]

/-! ## The comparisons together -/

/-- **The comparisons of two values agree with each other.** Either the two can be compared, and then
`==` tells whether they are equal, `!=` the opposite, and both sides can be exchanged; or all these
fail. And either both are integers, and `<` tells the same as `>` with the sides exchanged, or both
of these fail. A failure names the operands in the order written, and it is a mismatch exactly when
their kinds differ. -/
theorem comparisons_agree (left right : Value) :
    (left.comparable right = true ∧
        left.applyBinary .equal right = .ok (.boolean (left == right)) ∧
        left.applyBinary .notEqual right = .ok (.boolean !(left == right)) ∧
        right.applyBinary .equal left = .ok (.boolean (left == right)) ∨
      left.comparable right = false ∧ left.Incomparable .equal right ∧
        left.Incomparable .notEqual right ∧ right.Incomparable .equal left) ∧
    ((∃ first second, left = .integer first ∧ right = .integer second ∧
        left.applyBinary .less right = .ok (.boolean (decide (first < second))) ∧
        right.applyBinary .greater left = .ok (.boolean (decide (first < second)))) ∨
      (left.kind ≠ .integer ∨ right.kind ≠ .integer) ∧
        left.Incomparable .less right ∧ right.Incomparable .greater left) := by
  have exchanged := comparable_comm left right
  constructor
  · cases comparable : left.comparable right with
    | true =>
        have same : (right == left) = (left == right) := equal_comm right left
        have backward := applyBinary_equal (exchanged.symm.trans comparable)
        rw [same] at backward
        exact .inl ⟨rfl, applyBinary_equal comparable, applyBinary_notEqual comparable, backward⟩
    | false =>
        have backward := exchanged.symm.trans comparable
        exact .inr ⟨rfl, incomparable_of_isEquality rfl comparable,
          incomparable_of_isEquality rfl comparable, incomparable_of_isEquality rfl backward⟩
  · by_cases integers : left.kind = .integer ∧ right.kind = .integer
    · cases left with
      | integer first =>
          cases right with
          | integer second => exact .inl ⟨first, second, rfl, rfl, rfl, rfl⟩
          | _ => cases integers.2
      | _ => cases integers.1
    · have other := Decidable.not_and_iff_or_not.mp integers
      exact .inr ⟨other, incomparable_of_isOrder rfl other, incomparable_of_isOrder rfl other.symm⟩

end Value

end MonkeyLang
