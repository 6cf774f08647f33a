import MonkeyLang.Expansion
import MonkeyLang.Proofs.Evaluation.Depth

/-!
# The depth of an expansion does not change how it ends

The bodies of macros are evaluated, so an expansion has a depth as well, and it may be given up.
One that ended within some depth ends in the same way, on the same machine, within every greater
depth (`expandMacros_below`).
-/

set_option autoImplicit false

namespace MonkeyLang

open MonkeyLang.Computation

namespace Evaluator

variable {evaluator evaluator' : Evaluator} {macros : FrameId}

theorem Below.expandCall (below : evaluator.Below evaluator') (closure : Closure)
    (arguments : List Expression) :
    (evaluator.expandCall closure arguments).Below (evaluator'.expandCall closure arguments) := by
  rw [Evaluator.expandCall, Evaluator.expandCall]
  split
  · refine (Computation.Below.refl _).bind fun _ => (Computation.Below.refl _).bind fun _ => ?_
    exact (below.block closure.body).settle.bind fun _ => .refl _
  · exact .refl _

theorem Below.expandNode (below : evaluator.Below evaluator') (expression : Expression) :
    (evaluator.expandNode macros expression).Below (evaluator'.expandNode macros expression) := by
  cases expression with
  | call callee arguments =>
      refine (Computation.Below.refl _).bind fun found => ?_
      cases found with
      | none => exact .refl _
      | some closure => exact below.expandCall closure arguments
  | _ => exact .refl _

theorem Below.expander (below : evaluator.Below evaluator') (macros : FrameId) :
    Relator.below.Handles .all (evaluator.expander macros) (evaluator'.expander macros) where
  statement _ walks := walks
  block _ walks := walks
  expression _ walks :=
    ⟨walks.1.bind fun walked => below.expandNode walked, fun _ _ _ _ => trivial⟩

end Evaluator

/-- **An expansion that ended within some depth ends in the same way within every greater depth.** -/
theorem expandMacros_below {depth depth' : Nat} (le : depth ≤ depth') (macros : FrameId)
    (program : Program) :
    (expandMacros depth macros program).Below (expandMacros depth' macros program) :=
  (((evaluate_below le).expander macros).onStatements trivial).1

end MonkeyLang
