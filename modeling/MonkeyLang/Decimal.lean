/-!
# Decimal numerals

Integers are written in decimal with the fewest digits and a minus sign before
a negative one.  A numeral is read back with any number of leading zeros and at
most one sign, and only if its value fits 64 bits.  Reading the digits of a
number gives the number (`natural?_digits`).
-/

set_option autoImplicit false

namespace MonkeyLang.Decimal

/-! ## Digits -/

/-- The character of a digit below ten. -/
def digit (value : Nat) : Char :=
  Char.ofNat (48 + value)

/-- The value of a digit character. -/
def digitValue (c : Char) : Nat :=
  c.toNat - 48

/-- The digits of a number, the most significant first. -/
def digits (value : Nat) : List Char :=
  if value < 10 then [digit value] else digits (value / 10) ++ [digit (value % 10)]
termination_by value

/-- The number that a list of digits stands for after the digits of `before`. -/
def valueFrom (before : Nat) (text : List Char) : Nat :=
  text.foldl (fun value c => 10 * value + digitValue c) before

/-- The number that a text of one or more digits stands for. -/
def natural? (text : List Char) : Option Nat :=
  if text ≠ [] ∧ text.all Char.isDigit then some (valueFrom 0 text) else none

theorem isDigit_digit {value : Nat} (small : value < 10) : (digit value).isDigit = true := by
  revert value
  decide

theorem digitValue_digit {value : Nat} (small : value < 10) : digitValue (digit value) = value := by
  revert value
  decide

theorem digits_ne_nil (value : Nat) : digits value ≠ [] := by
  rw [digits]
  split <;> simp

theorem all_isDigit_digits (value : Nat) : (digits value).all Char.isDigit = true := by
  induction value using digits.induct with
  | case1 value small =>
    rw [digits, if_pos small]
    simp [isDigit_digit small]
  | case2 value large ih =>
    rw [digits, if_neg large, List.all_append, ih]
    simp [isDigit_digit (Nat.mod_lt value (by decide : 0 < 10))]

theorem valueFrom_digits (value : Nat) : valueFrom 0 (digits value) = value := by
  induction value using digits.induct with
  | case1 value small =>
    rw [digits, if_pos small]
    simp [valueFrom, digitValue_digit small]
  | case2 value large ih =>
    rw [digits, if_neg large]
    simp only [valueFrom, List.foldl_append, List.foldl_cons, List.foldl_nil] at ih ⊢
    rw [ih, digitValue_digit (Nat.mod_lt value (by decide : 0 < 10))]
    omega

/-- The digits of a number are read back as the number. -/
theorem natural?_digits (value : Nat) : natural? (digits value) = some value := by
  simp [natural?, digits_ne_nil, all_isDigit_digits, valueFrom_digits]

/-! ## Integers -/

/-- An integer in decimal. -/
def write (value : Int) : String :=
  if value < 0 then "-" ++ String.ofList (digits value.natAbs)
  else String.ofList (digits value.natAbs)

/-- The integer that a text of an optional sign and one or more digits stands for. -/
def integer? : List Char → Option Int
  | '-' :: text => (natural? text).map fun value => -(value : Int)
  | '+' :: text => (natural? text).map fun value => (value : Int)
  | text => (natural? text).map fun value => (value : Int)

/-- The integers that 64 bits hold. -/
def Fits (value : Int) : Prop :=
  -9223372036854775808 ≤ value ∧ value < 9223372036854775808

instance (value : Int) : Decidable (Fits value) :=
  inferInstanceAs (Decidable (_ ∧ _))

/-- The 64-bit integer that a text stands for; `none` if it is no numeral or does not fit. -/
def int64? (text : List Char) : Option Int64 :=
  (integer? text).bind fun value => if Fits value then some (Int64.ofInt value) else none

theorem integer?_of_natural? {text : List Char} {value : Nat}
    (numeral : natural? text = some value) : integer? text = some (value : Int) := by
  unfold integer?
  split
  · simp [natural?] at numeral
  · simp [natural?] at numeral
  · rw [numeral]
    rfl

/-- A numeral without a sign that fits stands for its value. -/
theorem int64?_of_natural? {text : List Char} {value : Nat}
    (numeral : natural? text = some value) (fits : value < 9223372036854775808) :
    int64? text = some (Int64.ofNat value) := by
  have fits : Fits value := by unfold Fits; omega
  rw [int64?, integer?_of_natural? numeral, Option.bind_some, if_pos fits, Int64.ofInt_eq_ofNat]

/-- A numeral after a minus sign that fits stands for the negated value. -/
theorem int64?_minus_of_natural? {text : List Char} {value : Nat}
    (numeral : natural? text = some value) (fits : value ≤ 9223372036854775808) :
    int64? ('-' :: text) = some (Int64.ofInt (-value)) := by
  have fits : Fits (-value) := by unfold Fits; omega
  rw [int64?, integer?, numeral]
  exact if_pos fits

end MonkeyLang.Decimal
