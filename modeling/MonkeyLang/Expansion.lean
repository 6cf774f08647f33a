import MonkeyLang.Evaluation

/-!
# Macros

Macros are dealt with on syntax, before evaluation.  Every binding of a macro
literal at the top of a program is taken out of the program and bound in a frame
of macros.  Then every call to a name that is bound to a macro there is replaced
by the syntax that the macro gives for the syntax of the arguments.  Calls are
replaced from the inside out, so a macro is given arguments whose own macro
calls are gone.

The body of a macro runs like that of a function, in a frame of its own inside
the frame of macros, with each parameter bound to the quote of an argument.  It
has to give a quote.
-/

set_option autoImplicit false

namespace MonkeyLang

/-! ## Definitions -/

/-- A machine with a macro bound in the frame of macros. -/
def Machine.defineMacro (machine : Machine) (macros : FrameId) (name : String)
    (parameters : List String) (body : Block) : Machine where
  store := machine.store.bind macros name (.macroValue ⟨parameters, body, macros, machine.stamp⟩)
  stamp := machine.stamp + 1
  printed := machine.printed

/-- A program without its macro definitions, and the machine with these bound. -/
def defineMacros (macros : FrameId) : Program → Machine → Program × Machine
  | [], machine => ([], machine)
  | .bind name (.macroLiteral parameters body) :: rest, machine =>
    defineMacros macros rest (machine.defineMacro macros name parameters body)
  | statement :: rest, machine =>
    let (program, machine) := defineMacros macros rest machine
    (statement :: program, machine)

/-! ## Expansion -/

namespace Evaluator

variable (evaluator : Evaluator)

/-- The syntax that a macro gives for arguments. -/
def expandCall (closure : Closure) (arguments : List Expression) : Computation Expression :=
  if closure.parameters.length = arguments.length then do
    let frame ← Computation.openFrame closure.frame
    Computation.bindNames frame closure.parameters (arguments.map .quote)
    match ← (evaluator.block frame closure.body).settle with
    | .quote node => return node
    | other => Computation.fail (.macroResult other.kind)
  else
    Computation.fail (.arity closure.parameters.length arguments.length)

/-- The macro that a callee names. -/
def macroNamed? (macros : FrameId) : Expression → Computation (Option Closure)
  | .identifier name => do
      match ← Computation.lookup? macros name with
      | some (.macroValue closure) => return some closure
      | _ => return none
  | _ => return none

/-- An expression whose parts are expanded, expanded itself if it calls a macro. -/
def expandNode (macros : FrameId) : Expression → Computation Expression
  | .call callee arguments => do
      match ← macroNamed? macros callee with
      | some closure => evaluator.expandCall closure arguments
      | none => return .call callee arguments
  | expression => return expression

/-- The traversal that expands macro calls from the inside out. -/
def expander (macros : FrameId) : Traversal Computation where
  statement _ walk := walk
  block _ walk := walk
  expression _ walk := do
    let walked ← walk
    evaluator.expandNode macros walked

end Evaluator

/-- The expansion of a program. -/
def expandMacros (depth : Nat) (macros : FrameId) (program : Program) : Computation Program :=
  ((evaluate depth).expander macros).onProgram program

end MonkeyLang
