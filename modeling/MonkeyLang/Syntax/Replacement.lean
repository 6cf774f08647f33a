import MonkeyLang.Syntax.Traversal

/-!
# Replacing expressions by rules

A rule names an expression and the one that takes its place.  Rules can be
applied before an expression is walked, and then the replacement stands as it
is, or after, to what the walk built.  An expression can also be rejected,
which ends the traversal there.  The nodes are recorded as they are reached, so
that the order of a traversal can be read off its record.
-/

set_option autoImplicit false

namespace MonkeyLang

/-- A node of a tree, as a traversal reaches it. -/
inductive Node where
  | statement (statement : Statement)
  | block (body : Block)
  | expression (expression : Expression)

/-- Which expressions are replaced before and after their walk, and which are rejected. -/
structure Replacement where
  before : List (Expression × Expression) := []
  after : List (Expression × Expression) := []
  rejected : List Expression := []

namespace Replacement

/-- Computations that record the nodes they reach and may end at a rejected expression. -/
abbrev Recording := ExceptT Expression (StateM (List Node))

/-- Adds a node to the record. -/
def reach (node : Node) : Recording Unit :=
  modify (· ++ [node])

/-- The traversal that applies the rules and records every node. -/
def traversal (rules : Replacement) : Traversal Recording where
  statement statement walk := do
    reach (.statement statement)
    walk
  block body walk := do
    reach (.block body)
    walk
  expression expression walk := do
    reach (.expression expression)
    if expression ∈ rules.rejected then
      throw expression
    match rules.before.lookup expression with
    | some replacement => return replacement
    | none =>
      let walked ← walk
      return (rules.after.lookup walked).getD walked

/-- A program with the rules applied, or the rejected expression that was met, and the nodes
reached on the way. -/
def apply (rules : Replacement) (program : Program) : Except Expression Program × List Node :=
  (rules.traversal.onProgram program).run.run []

end Replacement

end MonkeyLang
