import MonkeyLang.Syntax

/-!
# Traversing syntax

A traversal says what becomes of a statement, a block and an expression.  For
each node it is given the node and its *walk*, the computation that finds out
what becomes of the parts of the node, from left to right, and builds the node
again from the results.  A traversal that leaves the walk out replaces a node
without looking inside; one that runs the walk first replaces what the walk
built, from the leaves upward.

Computations live in a monad, so a traversal may fail, print or keep state; the
order of the walk is then the order of its effects.  Names that are bound,
those of a binding statement and those of parameters, are not nodes.
-/

set_option autoImplicit false

namespace MonkeyLang

/-- What becomes of each kind of node, given the node and its walk. -/
structure Traversal (m : Type → Type) where
  statement : Statement → m Statement → m Statement
  block : Block → m Block → m Block
  expression : Expression → m Expression → m Expression

namespace Traversal

variable {m : Type → Type} [Monad m]

mutual
/-- What becomes of a statement. -/
def onStatement (traversal : Traversal m) : Statement → m Statement
  | .bind name value => traversal.statement (.bind name value) do
      return .bind name (← traversal.onExpression value)
  | .ret value => traversal.statement (.ret value) do
      return .ret (← traversal.onExpression value)
  | .evaluate expression => traversal.statement (.evaluate expression) do
      return .evaluate (← traversal.onExpression expression)
  | .group body => traversal.statement (.group body) do
      return .group (← traversal.block body (traversal.onStatements body))

/-- What becomes of statements, one after the other. -/
def onStatements (traversal : Traversal m) : List Statement → m (List Statement)
  | [] => return []
  | statement :: rest => do
      let statement ← traversal.onStatement statement
      return statement :: (← traversal.onStatements rest)

/-- What becomes of an expression. -/
def onExpression (traversal : Traversal m) : Expression → m Expression
  | .identifier name => traversal.expression (.identifier name) (return .identifier name)
  | .integer value => traversal.expression (.integer value) (return .integer value)
  | .string text => traversal.expression (.string text) (return .string text)
  | .boolean value => traversal.expression (.boolean value) (return .boolean value)
  | .unary operator operand => traversal.expression (.unary operator operand) do
      return .unary operator (← traversal.onExpression operand)
  | .binary operator left right => traversal.expression (.binary operator left right) do
      let left ← traversal.onExpression left
      return .binary operator left (← traversal.onExpression right)
  | .conditional condition consequence none =>
    traversal.expression (.conditional condition consequence none) do
      let condition ← traversal.onExpression condition
      return .conditional condition
        (← traversal.block consequence (traversal.onStatements consequence)) none
  | .conditional condition consequence (some alternative) =>
    traversal.expression (.conditional condition consequence (some alternative)) do
      let condition ← traversal.onExpression condition
      let consequence ← traversal.block consequence (traversal.onStatements consequence)
      return .conditional condition consequence
        (some (← traversal.block alternative (traversal.onStatements alternative)))
  | .function parameters body => traversal.expression (.function parameters body) do
      return .function parameters (← traversal.block body (traversal.onStatements body))
  | .call callee arguments => traversal.expression (.call callee arguments) do
      let callee ← traversal.onExpression callee
      return .call callee (← traversal.onExpressions arguments)
  | .array elements => traversal.expression (.array elements) do
      return .array (← traversal.onExpressions elements)
  | .index collection position => traversal.expression (.index collection position) do
      let collection ← traversal.onExpression collection
      return .index collection (← traversal.onExpression position)
  | .hash pairs => traversal.expression (.hash pairs) do
      return .hash (← traversal.onPairs pairs)
  | .macroLiteral parameters body => traversal.expression (.macroLiteral parameters body) do
      return .macroLiteral parameters (← traversal.block body (traversal.onStatements body))

/-- What becomes of expressions, one after the other. -/
def onExpressions (traversal : Traversal m) : List Expression → m (List Expression)
  | [] => return []
  | expression :: rest => do
      let expression ← traversal.onExpression expression
      return expression :: (← traversal.onExpressions rest)

/-- What becomes of pairs, one after the other, each key before its value. -/
def onPairs (traversal : Traversal m) :
    List (Expression × Expression) → m (List (Expression × Expression))
  | [] => return []
  | (key, value) :: rest => do
      let key ← traversal.onExpression key
      let value ← traversal.onExpression value
      return (key, value) :: (← traversal.onPairs rest)
end

/-- What becomes of a program: its statements, one after the other, without a block around
them. -/
def onProgram (traversal : Traversal m) (program : Program) : m Program :=
  traversal.onStatements program

end Traversal

end MonkeyLang
