import MonkeyLang.Token

/-!
# Operators and their strength

A unary operator stands before its operand, a binary operator between two.
Strength orders the places at which an expression can be continued: an operand
keeps every operator that is stronger than the one before it.  Calls and
indexing are continuations too, stronger than every operator.
-/

set_option autoImplicit false

namespace MonkeyLang

/-! ## Operators -/

/-- The operators that stand before one operand. -/
inductive UnaryOperator where
  | not
  | negate
  deriving DecidableEq

/-- The operators that stand between two operands. -/
inductive BinaryOperator where
  | add
  | subtract
  | multiply
  | divide
  | less
  | greater
  | equal
  | notEqual
  deriving DecidableEq

namespace UnaryOperator

/-- How the operator is written. -/
def symbol : UnaryOperator → String
  | not => "!"
  | negate => "-"

/-- The operator that a token of this kind writes before an operand. -/
def ofKind? : TokenKind → Option UnaryOperator
  | .bang => some not
  | .minus => some negate
  | _ => none

end UnaryOperator

namespace BinaryOperator

/-- How the operator is written. -/
def symbol : BinaryOperator → String
  | add => "+"
  | subtract => "-"
  | multiply => "*"
  | divide => "/"
  | less => "<"
  | greater => ">"
  | equal => "=="
  | notEqual => "!="

/-- The operator that a token of this kind writes between two operands. -/
def ofKind? : TokenKind → Option BinaryOperator
  | .plus => some add
  | .minus => some subtract
  | .asterisk => some multiply
  | .slash => some divide
  | .less => some less
  | .greater => some greater
  | .equal => some equal
  | .notEqual => some notEqual
  | _ => none

/-- The operators that ask whether two values are the same. -/
def isEquality : BinaryOperator → Bool
  | equal | notEqual => true
  | _ => false

end BinaryOperator

/-! ## Strength -/

/-- How tightly a continuation binds, from the weakest to the strongest. -/
inductive Strength where
  | lowest
  | equality
  | comparison
  | sum
  | product
  | unary
  | call
  | index
  deriving DecidableEq

namespace Strength

/-- The place of a strength in the order. -/
def rank : Strength → Nat
  | lowest => 0
  | equality => 1
  | comparison => 2
  | sum => 3
  | product => 4
  | unary => 5
  | call => 6
  | index => 7

instance : LT Strength := ⟨fun weaker stronger => weaker.rank < stronger.rank⟩

instance (weaker stronger : Strength) : Decidable (weaker < stronger) :=
  inferInstanceAs (Decidable (weaker.rank < stronger.rank))

/-- How tightly a token of this kind continues an expression before it. -/
def ofKind : TokenKind → Strength
  | .equal | .notEqual => equality
  | .less | .greater => comparison
  | .plus | .minus => sum
  | .asterisk | .slash => product
  | .leftParen => call
  | .leftBracket => index
  | _ => lowest

theorem lt_iff {weaker stronger : Strength} :
    weaker < stronger ↔ weaker.rank < stronger.rank := Iff.rfl

/-- Nothing is weaker than a token that continues no expression. -/
theorem not_lt_lowest (strength : Strength) : ¬ strength < lowest :=
  Nat.not_lt_zero strength.rank

end Strength

end MonkeyLang
