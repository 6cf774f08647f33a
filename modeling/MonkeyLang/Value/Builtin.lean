/-!
# Names of the functions that are always there
-/

set_option autoImplicit false

namespace MonkeyLang

/-- The functions that need no definition. -/
inductive Builtin where
  | len
  | first
  | last
  | rest
  | push
  | puts
  deriving DecidableEq

namespace Builtin

/-- The name a function is called by. -/
def name : Builtin → String
  | len => "len"
  | first => "first"
  | last => "last"
  | rest => "rest"
  | push => "push"
  | puts => "puts"

/-- Every such function. -/
def all : List Builtin :=
  [len, first, last, rest, push, puts]

/-- The listing leaves no function out. -/
theorem mem_all (builtin : Builtin) : builtin ∈ all := by
  cases builtin <;> decide

/-- The function that a name calls. -/
def ofName? (name : String) : Option Builtin :=
  all.find? fun builtin => builtin.name == name

end Builtin

end MonkeyLang
