import MonkeyLang.Value

/-!
# Calling builtins

A builtin takes values and gives a value and the text it prints.  Only `puts`
prints: one line for each argument.  The number of arguments is checked before
their kinds.
-/

set_option autoImplicit false

namespace MonkeyLang

/-- A length as a value; beyond 64 bits it stays at the largest. -/
def Value.ofLength (length : Nat) : Value :=
  .integer (if length < 9223372036854775808 then Int64.ofNat length else Int64.maxValue)

namespace Builtin

/-- The single argument of a builtin. -/
def onlyArgument : List Value → Except RuntimeError Value
  | [argument] => .ok argument
  | arguments => .error (.builtinArity 1 arguments.length)

/-- The elements of an argument that has to be an array. -/
def elementsOf (builtin : Builtin) : Value → Except RuntimeError (List Value)
  | .array elements => .ok elements
  | argument => .error (.wrongArgument builtin .array argument.kind)

/-- The text that `puts` prints for its arguments. -/
def lines (arguments : List Value) : String :=
  arguments.foldr (fun argument text => argument.display ++ "\n" ++ text) ""

/-- The length of a string in bytes or of an array in elements. -/
def length : Value → Except RuntimeError Value
  | .string text => .ok (.ofLength text.utf8ByteSize)
  | .array elements => .ok (.ofLength elements.length)
  | argument => .error (.unsupportedArgument len argument.kind)

/-- The value of a builtin on its arguments. -/
def apply (builtin : Builtin) (arguments : List Value) : Except RuntimeError Value :=
  match builtin with
  | len => do length (← onlyArgument arguments)
  | first => do
      let elements ← elementsOf first (← onlyArgument arguments)
      return elements.head?.getD .null
  | last => do
      let elements ← elementsOf last (← onlyArgument arguments)
      return elements.getLast?.getD .null
  | rest => do
      match ← elementsOf rest (← onlyArgument arguments) with
      | [] => return .null
      | _ :: elements => return .array elements
  | push =>
    match arguments with
    | [collection, element] => do
        let elements ← elementsOf push collection
        return .array (elements ++ [element])
    | _ => .error (.builtinArity 2 arguments.length)
  | puts => .ok .null

/-- The text that a builtin prints when it is called. -/
def prints (builtin : Builtin) (arguments : List Value) : String :=
  match builtin with
  | puts => lines arguments
  | _ => ""

end Builtin

end MonkeyLang
