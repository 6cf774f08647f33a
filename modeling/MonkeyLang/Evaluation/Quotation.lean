import MonkeyLang.Evaluation.Computation
import MonkeyLang.Syntax.Traversal

/-!
# Quoting syntax

`quote` keeps its argument as syntax.  Inside it, every call to `unquote` with
one argument is evaluated where the quote stands, and the syntax for its value
takes its place; that syntax is not searched again.  A value without syntax, or
an evaluation that fails, fails the quote.
-/

set_option autoImplicit false

namespace MonkeyLang

/-- Evaluates an expression in a frame. -/
abbrev Evaluator := FrameId → Expression → Computation Value

namespace Evaluator

/-- The syntax for the value of an expression. -/
def unquote (evaluator : Evaluator) (frame : FrameId) (expression : Expression) :
    Computation Expression := do
  let value ← (evaluator frame expression).settle
  Computation.ofExcept value.toSyntax

/-- The traversal that replaces the calls to `unquote`. -/
def unquoter (evaluator : Evaluator) (frame : FrameId) : Traversal Computation where
  statement _ walk := walk
  block _ walk := walk
  expression expression walk :=
    match expression.argumentsOfCallTo? "unquote" with
    | some [inner] => evaluator.unquote frame inner
    | _ => walk

/-- The quote of an expression. -/
def quote (evaluator : Evaluator) (frame : FrameId) : List Expression → Computation Value
  | [expression] => do
      return .quote (← (evaluator.unquoter frame).onExpression expression)
  | arguments => .fail (.quoteArity arguments.length)

end Evaluator

end MonkeyLang
