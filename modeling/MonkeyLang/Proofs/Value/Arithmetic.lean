import Mathlib.Data.Int.ModEq
import MonkeyLang.Value.Operation

/-!
# Arithmetic on 64-bit integers

The operators on integers are those on exact integers, brought back into 64 bits. Sums, differences,
products and negations are the one number that fits and differs from the exact one by a multiple of
`2 ^ 64` (`WrapsTo`). Quotients are cut off toward zero (`TruncatesTo`); the only quotient that does
not fit, that of the least number by `-1`, is the least number again, and only zero divides nothing.
Comparisons tell the order of the exact integers. All of it together is `Value.ExactOn`, and it
holds of any two integers (`Value.exactOn`).
-/

set_option autoImplicit false

namespace MonkeyLang

/-! ## Wrapping around -/

/-- Of the numbers that fit 64 bits, the value is the only one that is congruent to the exact
number. -/
def WrapsTo (exact : Int) (value : Int64) : Prop :=
  ∀ number : Int, Decimal.Fits number ∧ number ≡ exact [ZMOD 2 ^ 64] ↔ number = value.toInt

theorem fits_toInt (value : Int64) : Decimal.Fits value.toInt :=
  ⟨value.le_toInt, value.toInt_lt⟩

/-- The balanced remainder is the number that fits. -/
theorem wrapsTo_of_toInt_eq {exact : Int} {value : Int64}
    (same : value.toInt = exact.bmod (2 ^ 64)) : WrapsTo exact value := by
  intro number
  constructor
  · rintro ⟨⟨least, most⟩, congruent⟩
    have balanced : number.bmod (2 ^ 64) = exact.bmod (2 ^ 64) := by
      rw [← Int.emod_bmod number, ← Int.emod_bmod exact]
      exact congrArg (Int.bmod · (2 ^ 64)) congruent
    rw [same, ← balanced]
    exact (Int.bmod_eq_of_le least most).symm
  · rintro rfl
    refine ⟨fits_toInt value, ?_⟩
    rw [same]
    exact Int.bmod_emod

/-! ## Division -/

/-- What is left of the dividend is smaller than the divisor and, unless nothing is left, has the
sign of the dividend. -/
def TruncatesTo (dividend divisor quotient : Int) : Prop :=
  ∃ remainder : Int, dividend = quotient * divisor + remainder ∧
    remainder.natAbs < divisor.natAbs ∧ (remainder = 0 ∨ remainder.sign = dividend.sign)

theorem truncatesTo_tdiv {dividend divisor : Int} (nonzero : divisor ≠ 0) :
    TruncatesTo dividend divisor (dividend.tdiv divisor) := by
  refine ⟨dividend.tmod divisor, (Int.tdiv_mul_add_tmod dividend divisor).symm, ?_, ?_⟩
  · rw [Int.natAbs_tmod]
    exact Nat.mod_lt _ (Int.natAbs_pos.mpr nonzero)
  · rw [← Int.sign_eq_zero_iff_zero, Int.sign_tmod]
    split
    · exact .inl rfl
    · exact .inr rfl

/-- Only the least number divided by `-1` has a quotient that does not fit. -/
theorem toInt_div_of_not_overflow {left right : Int64}
    (within : ¬ (left = Int64.minValue ∧ right = -1)) :
    (left / right).toInt = left.toInt.tdiv right.toInt := by
  by_cases least : left = Int64.minValue
  · exact Int64.toInt_div_of_ne_right left right fun one => within ⟨least, one⟩
  · exact Int64.toInt_div_of_ne_left left right least

/-! ## The operators -/

namespace Value

/-- The operators on two integers are those on the exact integers, wrapped to 64 bits. -/
structure ExactOn (left right : Int64) : Prop where
  sum : ∃ value, applyBinary (.integer left) .add (.integer right) = .ok (.integer value) ∧
    WrapsTo (left.toInt + right.toInt) value
  difference : ∃ value,
    applyBinary (.integer left) .subtract (.integer right) = .ok (.integer value) ∧
      WrapsTo (left.toInt - right.toInt) value
  product : ∃ value,
    applyBinary (.integer left) .multiply (.integer right) = .ok (.integer value) ∧
      WrapsTo (left.toInt * right.toInt) value
  negation : ∃ value, applyUnary .negate (.integer left) = .ok (.integer value) ∧
    WrapsTo (-left.toInt) value
  undivided :
    applyBinary (.integer left) .divide (.integer right) = .error .divisionByZero ↔ right.toInt = 0
  quotient : right.toInt ≠ 0 → ∃ value,
    applyBinary (.integer left) .divide (.integer right) = .ok (.integer value) ∧
      if left.toInt = -2 ^ 63 ∧ right.toInt = -1 then value.toInt = -2 ^ 63
      else TruncatesTo left.toInt right.toInt value.toInt
  less : applyBinary (.integer left) .less (.integer right) =
    .ok (.boolean (decide (left.toInt < right.toInt)))
  greater : applyBinary (.integer left) .greater (.integer right) =
    .ok (.boolean (decide (right.toInt < left.toInt)))
  equal : applyBinary (.integer left) .equal (.integer right) =
    .ok (.boolean (decide (left.toInt = right.toInt)))
  notEqual : applyBinary (.integer left) .notEqual (.integer right) =
    .ok (.boolean !decide (left.toInt = right.toInt))

theorem applyBinary_divide (left right : Int64) :
    applyBinary (.integer left) .divide (.integer right) =
      if right = 0 then .error .divisionByZero else .ok (.integer (left / right)) :=
  rfl

theorem toInt_eq_zero {value : Int64} : value.toInt = 0 ↔ value = 0 :=
  Int64.toInt_inj (y := 0)

/-- **Every operator is exact on any two integers.** -/
theorem exactOn (left right : Int64) : ExactOn left right where
  sum := ⟨left + right, rfl, wrapsTo_of_toInt_eq (Int64.toInt_add left right)⟩
  difference := ⟨left - right, rfl, wrapsTo_of_toInt_eq (Int64.toInt_sub left right)⟩
  product := ⟨left * right, rfl, wrapsTo_of_toInt_eq (Int64.toInt_mul left right)⟩
  negation := ⟨-left, rfl, wrapsTo_of_toInt_eq (Int64.toInt_neg left)⟩
  undivided := by
    rw [applyBinary_divide, toInt_eq_zero]
    split <;> simp [*]
  quotient := by
    intro nonzero
    refine ⟨left / right, ?_, ?_⟩
    · rw [applyBinary_divide, if_neg (mt toInt_eq_zero.mpr nonzero)]
    · have overflows : left.toInt = -2 ^ 63 ∧ right.toInt = -1 ↔
          left = Int64.minValue ∧ right = -1 :=
        and_congr (Int64.toInt_inj (y := Int64.minValue)) (Int64.toInt_inj (y := -1))
      split
      · next overflow =>
        obtain ⟨rfl, rfl⟩ := overflows.mp overflow
        rfl
      · next within =>
        rw [toInt_div_of_not_overflow (mt overflows.mpr within)]
        exact truncatesTo_tdiv nonzero
  less := by
    simp only [← Int64.lt_iff_toInt_lt]
    rfl
  greater := by
    simp only [← Int64.lt_iff_toInt_lt]
    rfl
  equal := by
    simp only [Int64.toInt_inj]
    rfl
  notEqual := by
    simp only [Int64.toInt_inj]
    rfl

example : applyBinary (.integer Int64.minValue) .divide (.integer (-1)) =
    .ok (.integer Int64.minValue) := by
  rfl

end Value

end MonkeyLang
