import MonkeyLang.Evaluation
import MonkeyLang.Proofs.Evaluation.Sequencing
import MonkeyLang.Proofs.Syntax.Traversing

/-!
# The depth of an evaluation does not change how it ends

The depth only decides whether an evaluation is given up. One that ended within
some depth ends in the same way, on the same machine, within every greater depth
(`evaluate_below`), so evaluations that end within different depths end alike
(`Evaluator.block_unique`).

A computation is below another one if the other one ends as it does wherever it
ends. Sequencing and every step of evaluation keep this order, so evaluators one
of which is below the other pass it on to their steps.
-/

set_option autoImplicit false

namespace MonkeyLang

/-! ## The order of computations -/

namespace Computation

variable {α β : Type}

/-- Wherever this computation ends, the other one ends in the same way. -/
def Below (computation computation' : Computation α) : Prop :=
  ∀ machine reached, computation machine = some reached → computation' machine = some reached

/-- All values that the computation can have are inside. -/
def Yields (inside : α → Prop) (computation : Computation α) : Prop :=
  ∀ machine value after, computation machine = some (.value value, after) → inside value

theorem Below.refl (computation : Computation α) : computation.Below computation :=
  fun _ _ ends => ends

theorem giveUp_below (computation : Computation α) : giveUp.Below computation := by
  rintro _ _ ⟨⟩

section

variable {first first' : Computation α} {next next' : α → Computation β}

/-- What follows is compared only after values that the first computation can have. -/
theorem Below.bind_of_yields {inside : α → Prop} (below : first.Below first')
    (yields : first.Yields inside)
    (others : ∀ value, inside value → (next value).Below (next' value)) :
    (first >>= next).Below (first' >>= next') := by
  intro machine reached ends
  cases run : first machine with
  | none =>
      rw [bind_of_none run] at ends
      cases ends
  | some middle =>
      have run' := below machine middle run
      obtain ⟨ending, after⟩ := middle
      cases ending with
      | value value =>
          rw [bind_of_value run] at ends
          rw [bind_of_value run']
          exact others value (yields machine value after run) after reached ends
      | returned value =>
          rw [bind_of_returned run] at ends
          rwa [bind_of_returned run']
      | failed cause =>
          rw [bind_of_failed run] at ends
          rwa [bind_of_failed run']

theorem Below.bind (below : first.Below first')
    (others : ∀ value, (next value).Below (next' value)) :
    (first >>= next).Below (first' >>= next') :=
  @bind_of_yields _ _ _ _ _ _ (fun _ => True) below (fun _ _ _ _ => trivial)
    fun value _ => others value

theorem Yields.bind {inside : α → Prop} {inside' : β → Prop} (yields : first.Yields inside)
    (others : ∀ value, inside value → (next value).Yields inside') :
    (first >>= next).Yields inside' := by
  intro machine result after ends
  obtain ⟨value, middle, run, rest⟩ := of_bind_eq_value ends
  exact others value (yields machine value middle run) middle result after rest

end

theorem Below.settle {body body' : Computation Value} (below : body.Below body') :
    body.settle.Below body'.settle := by
  intro machine reached ends
  rw [Computation.settle] at ends ⊢
  cases run : body machine with
  | none =>
      rw [run] at ends
      cases ends
  | some middle =>
      rw [run] at ends
      rw [below machine middle run]
      exact ends

end Computation

open MonkeyLang.Computation

/-- Computations that build trees, one below the other. -/
def Relator.below : Relator Computation Computation where
  Builds inside computation computation' :=
    computation.Below computation' ∧ computation.Yields inside
  builds_pure holds := ⟨.refl _, by rintro _ _ _ ⟨⟩; exact holds⟩
  builds_bind first others :=
    ⟨first.1.bind_of_yields first.2 fun tree holds => (others tree holds).1,
      first.2.bind fun tree holds => (others tree holds).2⟩

/-! ## The order of evaluators -/

namespace Evaluator

/-- Wherever the evaluation of an expression ends, the other evaluator ends in the same way. -/
def Below (evaluator evaluator' : Evaluator) : Prop :=
  ∀ frame expression, (evaluator frame expression).Below (evaluator' frame expression)

variable {evaluator evaluator' : Evaluator} {frame : FrameId}

mutual
theorem Below.statement (below : evaluator.Below evaluator') : ∀ statement : Statement,
    (evaluator.statement frame statement).Below (evaluator'.statement frame statement)
  | .bind _ value => (below frame value).bind fun _ => .refl _
  | .ret value => (below frame value).bind fun _ => .refl _
  | .evaluate expression => below frame expression
  | .group body => below.statements .null body

theorem Below.statements (below : evaluator.Below evaluator') :
    ∀ (before : Value) (body : List Statement),
      (evaluator.statements frame before body).Below (evaluator'.statements frame before body)
  | _, [] => .refl _
  | _, first :: rest => (below.statement first).bind fun value => below.statements value rest
end

theorem Below.block (below : evaluator.Below evaluator') (body : Block) :
    (evaluator.block frame body).Below (evaluator'.block frame body) :=
  below.statements .null body

theorem Below.list (below : evaluator.Below evaluator') (expressions : List Expression) :
    (evaluator.list frame expressions).Below (evaluator'.list frame expressions) := by
  induction expressions with
  | nil => exact .refl _
  | cons first rest ih => exact (below frame first).bind fun _ => ih.bind fun _ => .refl _

theorem Below.entries (below : evaluator.Below evaluator') :
    ∀ (pairs : List (Expression × Expression)) (table : HashTable),
      (evaluator.entries frame table pairs).Below (evaluator'.entries frame table pairs)
  | [], _ => .refl _
  | (key, value) :: rest, _ =>
    (below frame key).bind fun _ => (Computation.Below.refl _).bind fun _ =>
      (below frame value).bind fun _ => below.entries rest _

theorem Below.unquoter (below : evaluator.Below evaluator') (frame : FrameId) :
    Relator.below.Handles .all (evaluator.unquoter frame) (evaluator'.unquoter frame) where
  statement _ walks := walks
  block _ walks := walks
  expression {node walk walk'} _ walks := by
    dsimp only [Evaluator.unquoter]
    split
    · next inner _ =>
      exact ⟨(below frame inner).settle.bind fun _ => .refl _, fun _ _ _ _ => trivial⟩
    · exact walks

theorem Below.quote (below : evaluator.Below evaluator') (arguments : List Expression) :
    (evaluator.quote frame arguments).Below (evaluator'.quote frame arguments) := by
  rcases arguments with _ | ⟨expression, _ | _⟩
  case cons.nil =>
    have quoted : ((evaluator.unquoter frame).onExpression expression).Below
        ((evaluator'.unquoter frame).onExpression expression) :=
      ((below.unquoter frame).onExpression trivial).1
    exact quoted.bind fun _ => .refl _
  all_goals exact .refl _

theorem Below.apply (below : evaluator.Below evaluator') (callee : Value)
    (arguments : List Value) :
    (evaluator.apply callee arguments).Below (evaluator'.apply callee arguments) := by
  cases callee with
  | function closure =>
      rw [Evaluator.apply, Evaluator.apply]
      split
      · exact (Computation.Below.refl _).bind fun _ => (Computation.Below.refl _).bind fun _ =>
          (below.block closure.body).settle
      · exact .refl _
  | _ => exact .refl _

theorem Below.call (below : evaluator.Below evaluator') (callee : Expression)
    (arguments : List Expression) :
    (evaluator.call frame callee arguments).Below (evaluator'.call frame callee arguments) := by
  refine (Computation.Below.refl _).bind fun quotes => ?_
  split
  · exact below.quote arguments
  · exact (below frame callee).bind fun callee =>
      (below.list arguments).bind fun arguments => below.apply callee arguments

/-- Steps keep the order of the evaluations inside them. -/
theorem Below.step (below : evaluator.Below evaluator') :
    Below evaluator.step evaluator'.step := by
  intro frame expression
  cases expression with
  | identifier | integer | string | boolean | function | macroLiteral => exact .refl _
  | unary operator operand => exact (below frame operand).bind fun _ => .refl _
  | binary operator left right =>
      exact (below frame left).bind fun _ => (below frame right).bind fun _ => .refl _
  | conditional condition consequence alternative =>
      refine (below frame condition).bind fun value => ?_
      split
      · exact below.block consequence
      · cases alternative with
        | none => exact .refl _
        | some alternative => exact below.block alternative
  | call callee arguments => exact below.call callee arguments
  | array elements => exact (below.list elements).bind fun _ => .refl _
  | index collection position =>
      exact (below frame collection).bind fun _ => (below frame position).bind fun _ => .refl _
  | hash pairs => exact (below.entries pairs []).bind fun _ => .refl _

end Evaluator

/-- **What ended within some depth ends in the same way within every greater depth.** -/
theorem evaluate_below {depth depth' : Nat} (le : depth ≤ depth') :
    (evaluate depth).Below (evaluate depth') := by
  -- On the smaller depth: a step passes the order on from the evaluations inside it.
  induction depth generalizing depth' with
  | zero => exact fun _ _ => giveUp_below _
  | succ depth ih =>
      obtain ⟨more, rfl⟩ : ∃ more, depth' = more + 1 := ⟨depth' - 1, by omega⟩
      exact (ih (Nat.le_of_succ_le_succ le)).step

/-- Evaluations of a block that end, within whatever depths, end alike. -/
theorem Evaluator.block_unique {depth depth' : Nat} {frame : FrameId} {body : Block}
    {machine : Machine} {reached reached' : Ending Value × Machine}
    (ends : (evaluate depth).block frame body machine = some reached)
    (ends' : (evaluate depth').block frame body machine = some reached') : reached' = reached := by
  have most := (evaluate_below (Nat.le_max_left depth depth')).block body machine reached ends
  have most' := (evaluate_below (Nat.le_max_right depth depth')).block body machine reached' ends'
  exact Option.some.inj (most'.symm.trans most)

end MonkeyLang
