import MonkeyLang.Value

/-!
# Operators on values

Integers are 64-bit and wrap around; division goes toward zero.  Strings can be
joined and compared for equality, and so can booleans and null, in any
combination, compared for equality.  Everything else has no result: operands of
different kinds are a mismatch, operands of one kind an undefined operation.

Indexing an array beyond its ends, or a hash at a key it does not have, gives
null.
-/

set_option autoImplicit false

namespace MonkeyLang.Value

/-! ## Unary operators -/

/-- The value of a unary operator on an operand. -/
def applyUnary : UnaryOperator → Value → Except RuntimeError Value
  | .not, operand => .ok (.boolean (!operand.isTruthy))
  | .negate, .integer value => .ok (.integer (-value))
  | .negate, operand => .error (.unaryUndefined .negate operand.kind)

/-! ## Binary operators -/

/-- The value of a binary operator on two integers. -/
def applyToIntegers (left : Int64) (operator : BinaryOperator) (right : Int64) :
    Except RuntimeError Value :=
  match operator with
  | .add => .ok (.integer (left + right))
  | .subtract => .ok (.integer (left - right))
  | .multiply => .ok (.integer (left * right))
  | .divide => if right = 0 then .error .divisionByZero else .ok (.integer (left / right))
  | .less => .ok (.boolean (decide (left < right)))
  | .greater => .ok (.boolean (decide (right < left)))
  | .equal => .ok (.boolean (left == right))
  | .notEqual => .ok (.boolean (left != right))

/-- The value of a binary operator on two strings. -/
def applyToStrings (left : String) (operator : BinaryOperator) (right : String) :
    Except RuntimeError Value :=
  match operator with
  | .add => .ok (.string (left ++ right))
  | .equal => .ok (.boolean (left == right))
  | .notEqual => .ok (.boolean (left != right))
  | _ => .error (.binaryUndefined .string operator .string)

/-- Whether a value is a boolean or null, the values compared with each other by equality. -/
def isTruthValue : Value → Bool
  | boolean _ | null => true
  | _ => false

/-- Why a binary operator has no value on two operands. -/
def binaryError (left : Value) (operator : BinaryOperator) (right : Value) : RuntimeError :=
  if left.kind = right.kind then .binaryUndefined left.kind operator right.kind
  else .mismatch left.kind operator right.kind

/-- The value of a binary operator on two operands. -/
def applyBinary (left : Value) (operator : BinaryOperator) (right : Value) :
    Except RuntimeError Value :=
  match left, right with
  | .integer left, .integer right => applyToIntegers left operator right
  | .string left, .string right => applyToStrings left operator right
  | left, right =>
    if left.isTruthValue && right.isTruthValue && operator.isEquality then
      .ok (.boolean (left.equal right == decide (operator = .equal)))
    else
      .error (binaryError left operator right)

/-! ## Indexing -/

/-- The element of a list at a 64-bit position. -/
def elementAt? (elements : List Value) (position : Int64) : Option Value :=
  if position < 0 then none else elements[position.toInt.toNat]?

/-- The value at a position of an array or under a key of a hash. -/
def applyIndex : Value → Value → Except RuntimeError Value
  | .array elements, .integer position => .ok ((elementAt? elements position).getD .null)
  | .hash entries, key => do
      let key ← key.hashKey
      return ((Table.find? key entries).map Prod.snd).getD .null
  | collection, _ => .error (.notIndexable collection.kind)

end MonkeyLang.Value
