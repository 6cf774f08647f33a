import MonkeyLang.Decimal
import MonkeyLang.Operator
import MonkeyLang.Value.Builtin

/-!
# What can go wrong in an evaluation

A runtime error names its cause: the operation that has no result and the kinds
of the values it was tried on.
-/

set_option autoImplicit false

namespace MonkeyLang

/-! ## Kinds of values -/

/-- What sort of value a value is. -/
inductive Kind where
  | integer
  | boolean
  | null
  | string
  | array
  | hash
  | function
  | builtin
  | error
  | quote
  | macroValue
  deriving DecidableEq

/-- The name of a kind in messages. -/
def Kind.name : Kind → String
  | integer => "INTEGER"
  | boolean => "BOOLEAN"
  | null => "NULL"
  | string => "STRING"
  | array => "ARRAY"
  | hash => "HASH"
  | function => "FUNCTION"
  | builtin => "BUILTIN"
  | error => "ERROR"
  | quote => "QUOTE"
  | macroValue => "MACRO"

/-! ## Causes -/

/-- Why an evaluation has no value. -/
inductive RuntimeError where
  /-- The name is not bound and calls no builtin. -/
  | unbound (name : String)
  /-- The operator does not apply to an operand of this kind. -/
  | unaryUndefined (operator : UnaryOperator) (operand : Kind)
  /-- The operator does not apply to operands of these kinds, which are the same. -/
  | binaryUndefined (left : Kind) (operator : BinaryOperator) (right : Kind)
  /-- The operands are of different kinds. -/
  | mismatch (left : Kind) (operator : BinaryOperator) (right : Kind)
  | divisionByZero
  /-- A value of this kind cannot be called. -/
  | notCallable (kind : Kind)
  /-- A function or a macro was given another number of arguments than it has parameters. -/
  | arity (want got : Nat)
  /-- A builtin was given another number of arguments than it takes. -/
  | builtinArity (want got : Nat)
  /-- The builtin has no result for an argument of this kind. -/
  | unsupportedArgument (builtin : Builtin) (got : Kind)
  /-- The builtin takes an argument of one kind and was given another. -/
  | wrongArgument (builtin : Builtin) (want got : Kind)
  /-- A value of this kind cannot be the key of a hash. -/
  | notHashable (kind : Kind)
  /-- A value of this kind cannot be indexed, or not by what it was indexed with. -/
  | notIndexable (kind : Kind)
  /-- A value of this kind has no syntax to stand for it. -/
  | notSyntax (kind : Kind)
  /-- `quote` was given another number of arguments than one. -/
  | quoteArity (got : Nat)
  /-- A macro gave a value of this kind in place of a quote. -/
  | macroResult (kind : Kind)
  deriving DecidableEq

namespace RuntimeError

/-- A count in decimal. -/
private def count (number : Nat) : String :=
  Decimal.write number

/-- The line that shows an error. -/
def message : RuntimeError → String
  | unbound name => "identifier not found: " ++ name
  | unaryUndefined operator operand => "unknown operator: " ++ operator.symbol ++ operand.name
  | binaryUndefined left operator right =>
    "unknown operator: " ++ left.name ++ " " ++ operator.symbol ++ " " ++ right.name
  | mismatch left operator right =>
    "type mismatch: " ++ left.name ++ " " ++ operator.symbol ++ " " ++ right.name
  | divisionByZero => "division by zero"
  | notCallable kind => "not a function: " ++ kind.name
  | arity want got =>
    "wrong number of arguments: want=" ++ count want ++ ", got=" ++ count got
  | builtinArity want got =>
    "wrong number of arguments. got=" ++ count got ++ ", want=" ++ count want
  | unsupportedArgument builtin got =>
    "argument to `" ++ builtin.name ++ "` not supported, got " ++ got.name
  | wrongArgument builtin want got =>
    "argument to `" ++ builtin.name ++ "` must be " ++ want.name ++ ", got " ++ got.name
  | notHashable kind => "unusable as hash key: " ++ kind.name
  | notIndexable kind => "index operator not supported: " ++ kind.name
  | notSyntax kind => "unquote of non-literal value: " ++ kind.name
  | quoteArity got => "quote expects exactly one argument, got " ++ count got
  | macroResult kind => "macro must return a quote, got " ++ kind.name

end RuntimeError

end MonkeyLang
