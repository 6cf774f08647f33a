import MonkeyLang.Evaluation.Quotation
import MonkeyLang.Value.BuiltinCall
import MonkeyLang.Value.Operation

/-!
# Evaluation

Evaluation is described one step at a time: what an expression is worth, given
an evaluator for the expressions inside it and for the bodies it calls.  An
evaluator of a given depth is that step with an evaluator of the depth below;
at depth zero every evaluation is given up.  So an answer is always the answer
of the step, and the depth only bounds how far evaluations nest.

Operands, elements, arguments and statements are evaluated from left to right,
and the first one that returns or fails ends what it stands in.  A block is
evaluated in the frame around it; only a call opens a frame.
-/

set_option autoImplicit false

namespace MonkeyLang

namespace Evaluator

variable (evaluator : Evaluator) (frame : FrameId)

/-! ## Statements -/

mutual
/-- The value of a statement. -/
def statement : Statement → Computation Value
  | .bind name value => do
      let value ← evaluator frame value
      Computation.bindName frame name value
      return .null
  | .ret value => do
      let value ← evaluator frame value
      Computation.returning value
  | .evaluate expression => evaluator frame expression
  | .group body => statements .null body

/-- The value of the last of some statements; of none, the value before them. -/
def statements (before : Value) : List Statement → Computation Value
  | [] => return before
  | first :: rest => do
      let value ← statement first
      statements value rest
end

/-- The value of a block. -/
def block (body : Block) : Computation Value :=
  evaluator.statements frame .null body

/-! ## Parts of expressions -/

/-- What a name stands for: its binding, or else the builtin of that name. -/
def name (name : String) : Computation Value := do
  match ← Computation.lookup? frame name with
  | some value => return value
  | none =>
    match Builtin.ofName? name with
    | some builtin => return .builtin builtin
    | none => Computation.fail (.unbound name)

/-- The values of expressions, from left to right. -/
def list : List Expression → Computation (List Value)
  | [] => return []
  | first :: rest => do
      let value ← evaluator frame first
      return value :: (← list rest)

/-- A hash with the entries of pairs of expressions set one after the other. -/
def entries (table : HashTable) : List (Expression × Expression) → Computation HashTable
  | [] => return table
  | (key, value) :: rest => do
      let source ← evaluator frame key
      let key ← Computation.ofExcept source.hashKey
      let stored ← evaluator frame value
      entries (table.set key (source, stored)) rest

/-! ## Calls -/

/-- Whether a callee means the quoting of syntax: it is the word `quote`, and the frame sees no
binding of that name. -/
def meansQuote (frame : FrameId) : Expression → Computation Bool
  | .identifier "quote" => do
      return (← Computation.lookup? frame "quote").isNone
  | _ => return false

/-- The value of a called value on arguments. -/
def apply : Value → List Value → Computation Value
  | .function closure, arguments =>
    if closure.parameters.length = arguments.length then do
      let frame ← Computation.openFrame closure.frame
      Computation.bindNames frame closure.parameters arguments
      (evaluator.block frame closure.body).settle
    else
      Computation.fail (.arity closure.parameters.length arguments.length)
  | .builtin builtin, arguments => do
      Computation.print (builtin.prints arguments)
      Computation.ofExcept (builtin.apply arguments)
  | callee, _ => Computation.fail (.notCallable callee.kind)

/-- The value of a call. -/
def call (callee : Expression) (arguments : List Expression) : Computation Value := do
  if ← meansQuote frame callee then
    evaluator.quote frame arguments
  else
    let callee ← evaluator frame callee
    let arguments ← evaluator.list frame arguments
    evaluator.apply callee arguments

/-! ## Expressions -/

/-- The value of an expression, given an evaluator for what is inside it. -/
def step : Expression → Computation Value
  | .identifier text => name frame text
  | .integer value => return .integer value
  | .string text => return .string text
  | .boolean value => return .boolean value
  | .unary operator operand => do
      let operand ← evaluator frame operand
      Computation.ofExcept (operand.applyUnary operator)
  | .binary operator left right => do
      let left ← evaluator frame left
      let right ← evaluator frame right
      Computation.ofExcept (left.applyBinary operator right)
  | .conditional condition consequence alternative => do
      let condition ← evaluator frame condition
      if condition.isTruthy then
        evaluator.block frame consequence
      else
        match alternative with
        | some alternative => evaluator.block frame alternative
        | none => return .null
  | .function parameters body => do
      return .function (← Computation.newClosure parameters body frame)
  | .call callee arguments => evaluator.call frame callee arguments
  | .array elements => do
      return .array (← evaluator.list frame elements)
  | .index collection position => do
      let collection ← evaluator frame collection
      let position ← evaluator frame position
      Computation.ofExcept (collection.applyIndex position)
  | .hash pairs => do
      return .hash (← evaluator.entries frame [] pairs)
  | .macroLiteral parameters body => do
      return .macroValue (← Computation.newClosure parameters body frame)

end Evaluator

/-- The evaluator whose evaluations nest no deeper than the given depth. -/
def evaluate : Nat → Evaluator
  | 0 => fun _ _ => Computation.giveUp
  | depth + 1 => (evaluate depth).step

/-! ## Programs -/

/-- Whether a program has nothing to show when it runs to its end: it is empty or ends with a
binding. -/
def endsSilently (program : Program) : Bool :=
  match program.getLast? with
  | none | some (.bind _ _) => true
  | _ => false

/-- What a program shows when it ends: its value unless it ends silently, a value returned at the
top, or the error that ended it. -/
def answer (program : Program) : Ending Value → Option Value
  | .value value => if endsSilently program then none else some value
  | .returned value => some value
  | .failed cause => some (.error cause)

/-- Runs a program in a frame. -/
def runProgram (depth : Nat) (frame : FrameId) (program : Program) (machine : Machine) :
    Option (Option Value × Machine) :=
  ((evaluate depth).block frame program machine).map fun (ending, machine) =>
    (answer program ending, machine)

end MonkeyLang
