import MonkeyLang.Syntax.Rendering
import MonkeyLang.Table
import MonkeyLang.Value.HashKey
import MonkeyLang.Value.RuntimeError

/-!
# Values

A value is data (integers, booleans, strings, null, arrays and hashes), a
callable (functions, builtins and macros), syntax held by a quote, or an error
that ended an evaluation.  A function or a macro carries its parameters, its
body, the frame of names it was made in, and a stamp that tells it apart from
every other one made before or after it.

Data is equal when it has the same shape and parts, functions and macros when
they carry the same stamp.  A hash keeps its entries in the order of their keys,
so two hashes are equal when their entries are, one by one.
-/

set_option autoImplicit false

namespace MonkeyLang

/-! ## Values -/

/-- The number of a frame of names. -/
abbrev FrameId := Nat

/-- What a function or a macro consists of. -/
structure Closure where
  parameters : List String
  body : Block
  /-- The frame that the body sees. -/
  frame : FrameId
  /-- What tells closures apart. -/
  stamp : Nat

/-- A value. -/
inductive Value where
  | integer (value : Int64)
  | boolean (value : Bool)
  | string (text : String)
  | null
  | array (elements : List Value)
  | hash (entries : List (HashKey × (Value × Value)))
  | function (closure : Closure)
  | builtin (builtin : Builtin)
  | error (cause : RuntimeError)
  | quote (node : Expression)
  | macroValue (closure : Closure)

/-- The entries of a hash: for each key, the value it comes from and the value stored. -/
abbrev HashTable := Table HashKey (Value × Value)

namespace Value

/-! ## What a value is -/

/-- The kind of a value. -/
def kind : Value → Kind
  | integer _ => .integer
  | boolean _ => .boolean
  | string _ => .string
  | null => .null
  | array _ => .array
  | hash _ => .hash
  | function _ => .function
  | builtin _ => .builtin
  | error _ => .error
  | quote _ => .quote
  | macroValue _ => .macroValue

/-- Whether a value counts as true: every value but `false` and `null` does. -/
def isTruthy : Value → Bool
  | boolean false | null => false
  | _ => true

/-- Whether a value is an error. -/
def isError : Value → Bool
  | error _ => true
  | _ => false

/-- The key that a value is stored under. -/
def hashKey : Value → Except RuntimeError HashKey
  | integer value => .ok (.integer value)
  | boolean value => .ok (.boolean value)
  | string text => .ok (.string (Digest.ofText text))
  | other => .error (.notHashable other.kind)

/-- The syntax that stands for a value: literals for integers and booleans, the quoted syntax for
a quote. -/
def toSyntax : Value → Except RuntimeError Expression
  | integer value => .ok (.integer value)
  | boolean value => .ok (.boolean value)
  | quote node => .ok node
  | other => .error (.notSyntax other.kind)

/-! ## Equality -/

mutual
/-- Whether two values are equal. -/
def equal : Value → Value → Bool
  | integer left, integer right => left == right
  | boolean left, boolean right => left == right
  | string left, string right => left == right
  | null, null => true
  | array left, array right => equalLists left right
  | hash left, hash right => equalEntries left right
  | function left, function right => left.stamp == right.stamp
  | builtin left, builtin right => decide (left = right)
  | error left, error right => decide (left = right)
  | quote left, quote right => decide (left = right)
  | macroValue left, macroValue right => left.stamp == right.stamp
  | _, _ => false

/-- Whether two lists of values are equal, one by one. -/
def equalLists : List Value → List Value → Bool
  | [], [] => true
  | left :: lefts, right :: rights => equal left right && equalLists lefts rights
  | _, _ => false

/-- Whether two lists of entries are equal, one by one. -/
def equalEntries : List (HashKey × (Value × Value)) → List (HashKey × (Value × Value)) → Bool
  | [], [] => true
  | (key, (source, stored)) :: lefts, (key', (source', stored')) :: rights =>
    decide (key = key') && (equal source source' && (equal stored stored' &&
      equalEntries lefts rights))
  | _, _ => false
end

instance : BEq Value := ⟨equal⟩

/-! ## Values as text -/

mutual
/-- The text that shows a value. -/
def display : Value → String
  | integer value => Decimal.write value.toInt
  | boolean true => "true"
  | boolean false => "false"
  | string text => text
  | null => "null"
  | array elements => "[" ++ commaSeparated (displayList elements) ++ "]"
  | hash entries => "\x7b" ++ commaSeparated (displayEntries entries) ++ "\x7d"
  | function closure => "fn" ++ renderParameters closure.parameters ++ " " ++ closure.body.render
  | builtin _ => "builtin function"
  | error cause => "ERROR: " ++ cause.message
  | quote node => "QUOTE(" ++ node.render ++ ")"
  | macroValue closure =>
    "macro" ++ renderParameters closure.parameters ++ " " ++ closure.body.render

/-- The text of each value of a list. -/
def displayList : List Value → List String
  | [] => []
  | value :: rest => display value :: displayList rest

/-- The text of each entry of a hash. -/
def displayEntries : List (HashKey × (Value × Value)) → List String
  | [] => []
  | (_, (source, stored)) :: rest =>
    (display source ++ ": " ++ display stored) :: displayEntries rest
end

end Value

end MonkeyLang
