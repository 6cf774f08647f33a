import MonkeyLang.Proofs.Evaluation.Descent
import MonkeyLang.Proofs.Expansion.Effects

/-!
# Where a returned value comes from

A value that is being returned was given to a `return` statement. The block of that
statement is reached by steps into parts alone: no call of a function, no call to
`unquote` and no macro call stands between it and the point where the value is being
returned (`Point.breaks_returned_iff`). So these three are where a return ends, and
nothing else is.

The proof follows an evaluation of some depth down to the statement. Calls, quotes and
the macro pass settle, whatever happens in the bodies that they run
(`Evaluator.settles_apply`, `Evaluator.settles_unquoter`), so the descent never has to
enter one. What was completed on the way down was completed within that depth, and so
within every greater one.
-/

set_option autoImplicit false

namespace MonkeyLang

open Relation (ReflTransGen)

/-! ## What never returns -/

namespace Computation

variable {α : Type} {inside : α → Prop}

theorem settles_ofExcept (outcome : Except RuntimeError α) :
    (ofExcept outcome).Settles fun _ => True := by
  cases outcome with
  | ok value => exact settles_pure trivial
  | error cause => exact settles_fail cause

theorem settles_print (text : String) : (print text).Settles fun _ => True := by
  rintro _ _ _ ⟨⟩
  exact .inl ⟨_, rfl, trivial⟩

/-- What settles does not return. -/
theorem Settles.not_returned {computation : Computation α} {machine after : Machine}
    {value : Value} (settles : computation.Settles inside) :
    computation machine ≠ some (.returned value, after) := by
  intro ends
  rcases settles _ _ _ ends with ⟨_, ⟨⟩, _⟩ | ⟨_, ⟨⟩⟩

end Computation

open MonkeyLang.Computation

/-- Computations that build trees and never return. -/
def Relator.settling : Relator Computation Computation where
  Builds inside computation _ := computation.Settles inside
  builds_pure := settles_pure
  builds_bind := Settles.bind

namespace Evaluator

variable (evaluator : Evaluator) (frame : FrameId)

theorem settles_name (text : String) : (Evaluator.name frame text).Settles fun _ => True := by
  unfold Evaluator.name
  refine (settles_lookup? frame text).bind fun found _ => ?_
  split
  · exact settles_pure trivial
  · split
    · exact settles_pure trivial
    · exact settles_fail _

/-- A call ends a return in the body of what is called. -/
theorem settles_apply (callee : Value) (arguments : List Value) :
    (evaluator.apply callee arguments).Settles fun _ => True := by
  unfold Evaluator.apply
  split
  · split
    · refine (settles_openFrame _).bind fun frame _ => ?_
      exact (settles_bindNames frame _ _).bind fun _ _ => settles_settle _
    · exact settles_fail _
  · exact (settles_print _).bind fun _ _ => settles_ofExcept _
  · exact settles_fail _

/-- A call to `unquote` ends a return in its argument. -/
theorem settles_unquoter : Relator.settling.Handles .all (evaluator.unquoter frame)
    (evaluator.unquoter frame) where
  statement _ walk := walk
  block _ walk := walk
  expression {node walk walk'} _ settles := by
    dsimp only [Evaluator.unquoter]
    split
    · exact (settles_settle _).bind fun value _ => settles_ofExcept value.toSyntax
    · exact settles

theorem settles_quote (arguments : List Expression) :
    (evaluator.quote frame arguments).Settles fun _ => True := by
  unfold Evaluator.quote
  split
  · exact Settles.bind ((evaluator.settles_unquoter frame).onExpression trivial)
      fun _ _ => settles_pure trivial
  · exact settles_fail _

end Evaluator

/-- A walk through syntax does not return when it handles no node by returning. -/
theorem Relator.Handles.settles_onPart {traversal traversal' : Traversal Computation}
    (handles : Relator.settling.Handles .all traversal traversal') (part : Part) :
    (traversal.onPart part).Settles fun _ => True := by
  cases part with
  | expression value =>
      rw [Traversal.onPart, ← bind_pure_comp]
      exact Settles.bind (handles.onExpression trivial) fun _ _ => settles_pure trivial
  | block body =>
      rw [Traversal.onPart, ← bind_pure_comp]
      exact Settles.bind (handles.onStatements trivial) fun _ _ => settles_pure trivial

theorem Evaluator.settles_expander (depth : Nat) (macros : FrameId) :
    Relator.settling.Handles .all ((evaluate depth).expander macros)
      ((evaluate depth).expander macros) where
  statement _ walk := walk
  block _ walk := walk
  expression _ walk :=
    Settles.bind walk fun walked _ => ((confined_evaluate depth).expandNode walked).settles

/-! ## Down to the statement -/

/-- The point is a block that comes to a `return` statement of its own, and the value of it. -/
inductive Point.Returns : Point → Value → Machine → Prop where
  | intro {frame : FrameId} {body before later : List Statement} {node : Expression}
      {last value : Value} {machine middle after : Machine}
      (place : body = before ++ .ret node :: later)
      (completed : Process.Ends (fun depth => (evaluate depth).block frame before) machine
        (.value last) middle)
      (valued : Process.Ends (fun depth => evaluate depth frame node) middle (.value value) after) :
      Point.Returns ⟨.evaluating frame, .block body, machine⟩ value after

/-- Steps into parts lead from the point to a block that comes to a `return` statement. -/
def Point.ReachesReturn (point : Point) (value : Value) (after : Machine) : Prop :=
  ∃ origin, Reaches point origin ∧ origin.Returns value after

section

variable {outer inner : Point} {value : Value} {after : Machine}

theorem Enters.reachesReturn (enters : Enters outer inner)
    (reaches : inner.ReachesReturn value after) : outer.ReachesReturn value after := by
  obtain ⟨origin, inside, returns⟩ := reaches
  exact ⟨origin, .head enters inside, returns⟩

theorem Point.Returns.breaks (returns : outer.Returns value after) :
    outer.Breaks (.returned value) after := by
  cases returns with
  | intro place completed valued =>
      rw [Point.breaks_block_iff, place]
      refine breaks_block completed ?_ _
      exact valued.bind (fun value _ => Computation.returning value)
        (Process.ends_of_forall fun _ => rfl)

end

section Descent

variable {depth : Nat} {frame : FrameId} {machine after : Machine} {value : Value}

/-- What is shown of a depth: the expressions that return within it reach a `return`. -/
structure DescendsWithin (depth : Nat) : Prop where
  expression : ∀ {frame : FrameId} {expression : Expression} {machine : Machine} {value : Value}
    {after : Machine}, evaluate depth frame expression machine = some (.returned value, after) →
      Point.ReachesReturn ⟨.evaluating frame, .expression expression, machine⟩ value after

/-- In a block that returns, the first statement that breaks returns. -/
theorem DescendsWithin.block (descends : DescendsWithin depth) {body : List Statement}
    {machine : Machine}
    (ends : (evaluate depth).block frame body machine = some (.returned value, after)) :
    Point.ReachesReturn ⟨.evaluating frame, .block body, machine⟩ value after := by
  obtain ⟨before, first, later, last, middle, place, run, broken⟩ :=
    @Evaluator.of_statements_eq _ _ _ _ (.returned value) _ _ ends
  have enters : Enters ⟨.evaluating frame, .block body, machine⟩
    ⟨.evaluating frame, first.part, middle⟩ := .statement place (ends_block run)
  -- Only a group leads to another block within the same depth, and that one is smaller.
  cases first with
  | bind name node =>
      rcases Computation.of_bind_eq_returned broken with inside | ⟨_, _, _, ⟨⟩⟩
      exact enters.reachesReturn (descends.expression inside)
  | ret node =>
      rcases Computation.of_bind_eq_returned broken with inside | ⟨result, final, valued, returning⟩
      · exact enters.reachesReturn (descends.expression inside)
      · cases returning
        exact ⟨_, .refl, .intro place (ends_block run) (ends_expression valued)⟩
  | evaluate node => exact enters.reachesReturn (descends.expression broken)
  | group inner =>
      have smaller : sizeOf inner < sizeOf body := by
        have member : Statement.group inner ∈ body := by simp [place]
        have := List.sizeOf_lt_of_mem member
        simp only [Statement.group.sizeOf_spec] at this
        omega
      rw [Evaluator.statement] at broken
      exact enters.reachesReturn (DescendsWithin.block descends broken)
termination_by sizeOf body

/-- In a list that returns, the first expression that breaks returns. -/
theorem DescendsWithin.list (descends : DescendsWithin depth) {expressions : List Expression}
    (ends : (evaluate depth).list frame expressions machine = some (.returned value, after)) :
    ∃ before part later values middle, expressions = before ++ part :: later ∧
      Process.Ends (fun depth => (evaluate depth).list frame before) machine (.value values)
        middle ∧ Point.ReachesReturn ⟨.evaluating frame, .expression part, middle⟩ value after := by
  obtain ⟨before, part, later, values, middle, place, run, broken⟩ :=
    @Evaluator.of_list_eq _ _ _ _ (.returned value) _ ends
  exact ⟨before, part, later, values, middle, place, ends_list run, descends.expression broken⟩

theorem DescendsWithin.operands (descends : DescendsWithin depth) {expression : Expression}
    {operands : List Expression} (strict : expression.operands? = some operands)
    (ends : (evaluate depth).step frame expression machine = some (.returned value, after)) :
    Point.ReachesReturn ⟨.evaluating frame, .expression expression, machine⟩ value after := by
  rw [Evaluator.step_eq strict] at ends
  rcases Computation.of_bind_eq_returned ends with broken | ⟨values, middle, run, broken⟩
  · obtain ⟨before, part, later, values, middle, place, completed, reaches⟩ := descends.list broken
    exact (Enters.operand strict place completed).reachesReturn reaches
  · obtain ⟨condition, consequence, alternative, tested, body, rfl, rfl, chosen, broken⟩ :=
      Evaluator.of_finish_eq_returned broken
    cases strict
    have test : evaluate depth frame condition machine = some (.value tested, middle) := by
      obtain ⟨first, between, run, rest⟩ := Computation.of_bind_eq_value run
      cases rest
      exact run
    exact (Enters.branch (ends_expression test) chosen).reachesReturn (descends.block broken)

theorem DescendsWithin.call (descends : DescendsWithin depth) {callee : Expression}
    {arguments : List Expression}
    (ends : (evaluate depth).call frame callee arguments machine = some (.returned value, after)) :
    Point.ReachesReturn ⟨.evaluating frame, .expression (.call callee arguments), machine⟩ value
      after := by
  obtain ⟨quotes, reads⟩ := Evaluator.exists_reads_meansQuote frame callee machine
  cases quotes with
  | true =>
      rw [Evaluator.call_of_quotes reads] at ends
      exact absurd ends ((evaluate depth).settles_quote frame arguments).not_returned
  | false =>
      rw [Evaluator.call_of_plain reads] at ends
      rcases Computation.of_bind_eq_returned ends with broken | ⟨values, middle, -, broken⟩
      · obtain ⟨before, part, later, values, middle, place, completed, reaches⟩ :=
          descends.list broken
        exact (Enters.argument reads place completed).reachesReturn reaches
      · cases values with
        | nil => cases broken
        | cons called values =>
            exact absurd broken ((evaluate depth).settles_apply called values).not_returned

theorem DescendsWithin.hash (descends : DescendsWithin depth)
    {pairs : List (Expression × Expression)}
    (ends : (evaluate depth).entries frame [] pairs machine = some (.returned value, after)) :
    Point.ReachesReturn ⟨.evaluating frame, .expression (.hash pairs), machine⟩ value after := by
  obtain ⟨before, key, stored, later, table, middle, place, run, broken⟩ :=
    Evaluator.of_entries_eq_returned ends
  rcases broken with inside | ⟨source, hashed, between, keyed, hashes, inside⟩
  · exact (Enters.key place (ends_entries run)).reachesReturn (descends.expression inside)
  · exact (Enters.stored place (ends_entries run) (ends_expression keyed) hashes).reachesReturn
      (descends.expression inside)

/-- One more depth: what returns is an operand, an argument, an entry or the chosen branch. -/
theorem DescendsWithin.succ (descends : DescendsWithin depth) : DescendsWithin (depth + 1) := by
  constructor
  intro frame expression machine value after ends
  have ends : (evaluate depth).step frame expression machine = some (.returned value, after) := ends
  cases expression with
  | unary | binary | conditional | array | index => exact descends.operands rfl ends
  | identifier text => exact absurd ends (Evaluator.settles_name frame text).not_returned
  | integer | string | boolean => cases ends
  | function parameters body | macroLiteral parameters body => cases ends
  | call callee arguments => exact descends.call ends
  | hash pairs =>
      rcases Computation.of_bind_eq_returned ends with broken | ⟨_, _, _, ⟨⟩⟩
      exact descends.hash broken

theorem descendsWithin (depth : Nat) : DescendsWithin depth := by
  induction depth with
  | zero =>
      constructor
      intro frame expression machine value after ends
      cases ends
  | succ depth ih => exact ih.succ

end Descent

/-- **A value is being returned at a point exactly when steps into parts lead from there to a
`return` statement** whose value it is, when everything before that statement has completed. -/
theorem Point.breaks_returned_iff {point : Point} {value : Value} {after : Machine} :
    point.Breaks (.returned value) after ↔
      ∃ origin, Reaches point origin ∧ origin.Returns value after := by
  constructor
  · intro breaks
    obtain ⟨mode, part, machine⟩ := point
    cases mode with
    | evaluating frame =>
        cases part with
        | expression expression =>
            obtain ⟨depth, run⟩ := Point.breaks_expression_iff.mp breaks
            exact (descendsWithin depth).expression (run depth (Nat.le_refl _))
        | block body =>
            obtain ⟨depth, run⟩ := Point.breaks_block_iff.mp breaks
            exact (descendsWithin depth).block (run depth (Nat.le_refl _))
    | quoting frame =>
        obtain ⟨depth, run⟩ := Point.breaks_quoting_iff.mp breaks
        exact absurd (run depth (Nat.le_refl _))
          (((evaluate depth).settles_unquoter frame).settles_onPart part).not_returned
    | expanding macros =>
        obtain ⟨depth, run⟩ := Point.breaks_expanding_iff.mp breaks
        exact absurd (run depth (Nat.le_refl _))
          ((Evaluator.settles_expander depth macros).settles_onPart part).not_returned
  · rintro ⟨origin, reaches, returns⟩
    exact reaches.breaks returns.breaks

end MonkeyLang
