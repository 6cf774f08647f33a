import MonkeyLang.Proofs.Syntax.Order

/-!
# Recording a walk

Without rules, a replacement only records the nodes that its traversal reaches, and ends at the
first expression that is rejected. So the traversal of a tree is the recording of its nodes one
after the other, and then the tree itself (`Replacement.onStatements_eq`). From what becomes of a
list of nodes it follows what becomes of a program (`Replacement.apply_rejecting`): either nothing
is rejected, and the program comes back after all its nodes were reached, or the walk ends at the
first rejected expression in the order of the text and has reached the nodes up to this one.
-/

set_option autoImplicit false

namespace MonkeyLang

open Traversal

namespace Replacement

/-! ## Recordings one after the other -/

section

variable {α β : Type} {first : Recording α} {before after : List Node}

theorem run_bind_of_ok {value : α} (ends : first.run.run before = (.ok value, after))
    (next : α → Recording β) :
    (first >>= next).run.run before = (next value).run.run after := by
  rw [ExceptT.run_bind, StateT.run_bind, ends]
  rfl

theorem run_bind_of_error {value : Expression} (ends : first.run.run before = (.error value, after))
    (next : α → Recording β) :
    (first >>= next).run.run before = (.error value, after) := by
  rw [ExceptT.run_bind, StateT.run_bind, ends]
  rfl

end

/-! ## Nodes -/

variable {rejected : List Expression}

/-- Records a node, and ends there if it is a rejected expression. -/
def record (rejected : List Expression) : Node → Recording Unit
  | .expression value => do
      reach (.expression value)
      if value ∈ rejected then throw value
  | node => reach node

/-- Records nodes one after the other. -/
def recordAll (rejected : List Expression) : List Node → Recording Unit
  | [] => return ()
  | first :: rest => do
      record rejected first
      recordAll rejected rest

theorem recordAll_append (before later : List Node) :
    recordAll rejected (before ++ later) =
      recordAll rejected before >>= fun _ => recordAll rejected later := by
  induction before with
  | nil => simp [recordAll]
  | cons first rest ih => simp [recordAll, ih]

theorem run_record {node : Node} (accepted : ∀ value ∈ rejected, node ≠ .expression value)
    (before : List Node) : (record rejected node).run.run before = (.ok (), before ++ [node]) := by
  cases node with
  | statement first => rfl
  | block body => rfl
  | expression value =>
      have notMem : value ∉ rejected := fun mem => accepted value mem rfl
      rw [record, if_neg notMem]
      rfl

theorem run_record_of_mem {value : Expression} (mem : value ∈ rejected) (before : List Node) :
    (record rejected (.expression value)).run.run before =
      (.error value, before ++ [.expression value]) := by
  rw [record, if_pos mem]
  rfl

/-- Nodes of which none is rejected are all recorded. -/
theorem run_recordAll {nodes : List Node}
    (accepted : ∀ value ∈ rejected, .expression value ∉ nodes) (before : List Node) :
    (recordAll rejected nodes).run.run before = (.ok (), before ++ nodes) := by
  induction nodes generalizing before with
  | nil => exact congrArg (Prod.mk _) (List.append_nil before).symm
  | cons first rest ih =>
      have here : ∀ value ∈ rejected, first ≠ .expression value :=
        fun value mem same => accepted value mem (same ▸ List.mem_cons_self)
      have head := run_record here before
      have tail := ih (fun value mem inside => accepted value mem (List.mem_cons_of_mem _ inside))
      rw [recordAll, run_bind_of_ok head, tail, List.append_assoc, List.singleton_append]

/-- Of nodes with a rejected expression among them, those up to the first one are recorded. -/
theorem run_recordAll_of_mem {before : List Node} {value : Expression}
    (accepted : ∀ other ∈ rejected, .expression other ∉ before) (mem : value ∈ rejected)
    (later : List Node) :
    (recordAll rejected (before ++ .expression value :: later)).run.run [] =
      (.error value, before ++ [.expression value]) := by
  rw [recordAll_append, run_bind_of_ok (run_recordAll accepted []), recordAll, List.nil_append]
  exact run_bind_of_error (run_record_of_mem mem before) _

/-- Among nodes that contain a rejected expression, one is the first. -/
theorem exists_first_rejected {nodes : List Node}
    (found : ∃ value ∈ rejected, Node.expression value ∈ nodes) :
    ∃ before value later, nodes = before ++ .expression value :: later ∧ value ∈ rejected ∧
      ∀ other ∈ rejected, .expression other ∉ before := by
  induction nodes with
  | nil =>
      obtain ⟨value, -, inside⟩ := found
      cases inside
  | cons first rest ih =>
      by_cases here : ∃ value ∈ rejected, first = .expression value
      · obtain ⟨value, mem, rfl⟩ := here
        exact ⟨[], value, rest, rfl, mem, fun _ _ => List.not_mem_nil⟩
      · have further : ∃ value ∈ rejected, Node.expression value ∈ rest := by
          obtain ⟨value, mem, inside⟩ := found
          rcases List.mem_cons.mp inside with same | inside
          · exact absurd ⟨value, mem, same.symm⟩ here
          · exact ⟨value, mem, inside⟩
        obtain ⟨before, value, later, rfl, mem, accepted⟩ := ih further
        refine ⟨first :: before, value, later, rfl, mem, fun other mem inside => ?_⟩
        rcases List.mem_cons.mp inside with same | inside
        · exact here ⟨other, mem, same.symm⟩
        · exact accepted other mem inside

/-! ## Trees -/

/-- The traversal that only records, and ends at rejected expressions. -/
def rejecting (rejected : List Expression) : Traversal Recording :=
  traversal { rejected := rejected }

theorem rejecting_statement (node : Statement) (walk : Recording Statement) :
    (rejecting rejected).statement node walk =
      record rejected (.statement node) >>= fun _ => walk :=
  rfl

theorem rejecting_block (node : Block) (walk : Recording Block) :
    (rejecting rejected).block node walk = record rejected (.block node) >>= fun _ => walk :=
  rfl

theorem rejecting_expression (node : Expression) (walk : Recording Expression) :
    (rejecting rejected).expression node walk =
      record rejected (.expression node) >>= fun _ => walk := by
  simp only [rejecting, traversal, record, bind_assoc, List.lookup_nil]
  refine congrArg (reach _ >>= ·) (funext fun _ => ?_)
  split
  · rfl
  · simp

mutual
theorem onStatement_eq : ∀ statement : Statement,
    (rejecting rejected).onStatement statement =
      recordAll rejected statement.nodes >>= fun _ => return statement
  | .bind name value => by
    simp [onStatement, rejecting_statement, Statement.nodes, recordAll, onExpression_eq value]
  | .ret value => by
    simp [onStatement, rejecting_statement, Statement.nodes, recordAll, onExpression_eq value]
  | .evaluate value => by
    simp [onStatement, rejecting_statement, Statement.nodes, recordAll, onExpression_eq value]
  | .group body => by
    simp [onStatement, rejecting_statement, rejecting_block, Statement.nodes, recordAll,
      onStatements_eq body]

theorem onStatements_eq : ∀ body : List Statement,
    (rejecting rejected).onStatements body =
      recordAll rejected (statementNodes body) >>= fun _ => return body
  | [] => by simp [onStatements, statementNodes, recordAll]
  | first :: rest => by
    simp [onStatements, statementNodes, recordAll_append, onStatement_eq first,
      onStatements_eq rest]

/-- **A walk is the recording of all nodes, one after the other, and then the tree.** -/
theorem onExpression_eq : ∀ value : Expression,
    (rejecting rejected).onExpression value =
      recordAll rejected value.nodes >>= fun _ => return value
  | .identifier _ | .integer _ | .string _ | .boolean _ => by
    simp [onExpression, rejecting_expression, Expression.nodes, recordAll]
  | .unary operator operand => by
    simp [onExpression, rejecting_expression, Expression.nodes, recordAll, onExpression_eq operand]
  | .binary operator left right => by
    simp [onExpression, rejecting_expression, Expression.nodes, recordAll, recordAll_append,
      onExpression_eq left, onExpression_eq right]
  | .conditional condition consequence none => by
    simp [onExpression, rejecting_expression, rejecting_block, Expression.nodes, recordAll,
      recordAll_append, onExpression_eq condition, onStatements_eq consequence]
  | .conditional condition consequence (some alternative) => by
    simp [onExpression, rejecting_expression, rejecting_block, Expression.nodes, recordAll,
      recordAll_append, onExpression_eq condition, onStatements_eq consequence,
      onStatements_eq alternative]
  | .function parameters body => by
    simp [onExpression, rejecting_expression, rejecting_block, Expression.nodes, recordAll,
      onStatements_eq body]
  | .call callee arguments => by
    simp [onExpression, rejecting_expression, Expression.nodes, recordAll, recordAll_append,
      onExpression_eq callee, onExpressions_eq arguments]
  | .array elements => by
    simp [onExpression, rejecting_expression, Expression.nodes, recordAll,
      onExpressions_eq elements]
  | .index collection position => by
    simp [onExpression, rejecting_expression, Expression.nodes, recordAll, recordAll_append,
      onExpression_eq collection, onExpression_eq position]
  | .hash pairs => by
    simp [onExpression, rejecting_expression, Expression.nodes, recordAll, onPairs_eq pairs]
  | .macroLiteral parameters body => by
    simp [onExpression, rejecting_expression, rejecting_block, Expression.nodes, recordAll,
      onStatements_eq body]

theorem onExpressions_eq : ∀ list : List Expression,
    (rejecting rejected).onExpressions list =
      recordAll rejected (expressionNodes list) >>= fun _ => return list
  | [] => by simp [onExpressions, expressionNodes, recordAll]
  | first :: rest => by
    simp [onExpressions, expressionNodes, recordAll_append, onExpression_eq first,
      onExpressions_eq rest]

theorem onPairs_eq : ∀ pairs : List (Expression × Expression),
    (rejecting rejected).onPairs pairs =
      recordAll rejected (pairNodes pairs) >>= fun _ => return pairs
  | [] => by simp [onPairs, pairNodes, recordAll]
  | (key, value) :: rest => by
    simp [onPairs, pairNodes, recordAll_append, onExpression_eq key, onExpression_eq value,
      onPairs_eq rest]
end

/-- Without a rejected expression the traversal gives the program back after reaching all of its
nodes. -/
theorem apply_of_accepted {program : Program}
    (accepted : ∀ value ∈ rejected, .expression value ∉ program.nodes) :
    apply { rejected := rejected } program = (.ok program, program.nodes) := by
  have recorded := run_recordAll accepted []
  change ((rejecting rejected).onStatements program).run.run [] = _
  rw [onStatements_eq]
  exact run_bind_of_ok recorded _

/-- With one it ends at the first. -/
theorem apply_of_rejected {program : Program} {before later : List Node} {value : Expression}
    (split : program.nodes = before ++ .expression value :: later) (mem : value ∈ rejected)
    (accepted : ∀ other ∈ rejected, .expression other ∉ before) :
    apply { rejected := rejected } program = (.error value, before ++ [.expression value]) := by
  have recorded := run_recordAll_of_mem accepted mem later
  rw [← split] at recorded
  change ((rejecting rejected).onStatements program).run.run [] = _
  rw [onStatements_eq]
  exact run_bind_of_error recorded _

/-- **A traversal without rules reaches every node of a program once, in the order of the text, and
gives the program back; if expressions are rejected and one of them stands in the program, it ends
at the first, after reaching exactly the nodes up to this one.** -/
theorem apply_rejecting (rejected : List Expression) (program : Program) :
    InTextOrder (nodeAt? (program.map .statement)) program.nodes ∧
      ((∀ value ∈ rejected, .expression value ∉ program.nodes) →
        apply { rejected := rejected } program = (.ok program, program.nodes)) ∧
      ((∃ value ∈ rejected, .expression value ∈ program.nodes) →
        ∃ before value later, program.nodes = before ++ .expression value :: later ∧
          value ∈ rejected ∧ (∀ other ∈ rejected, .expression other ∉ before) ∧
          apply { rejected := rejected } program =
            (.error value, before ++ [.expression value])) := by
  refine ⟨program.inTextOrder_nodes, apply_of_accepted, fun found => ?_⟩
  obtain ⟨before, value, later, split, mem, accepted⟩ := exists_first_rejected found
  exact ⟨before, value, later, split, mem, accepted, apply_of_rejected split mem accepted⟩

/-- A conditional with one call in its condition and in a branch: the name that is bound is not
reached, and the argument of the calls ends the walk. -/
theorem apply_rejecting_twice :
    let call : Expression := .call (.identifier "f") [.integer 1]
    let program : Program := [.bind "x" (.conditional call [.evaluate call] none)]
    apply { rejected := [.identifier "x"] } program = (.ok program, program.nodes) ∧
      ∃ before later, program.nodes = before ++ .expression (.integer 1) :: later ∧
        .expression (.integer 1) ∉ before ∧
        apply { rejected := [.integer 1] } program =
          (.error (.integer 1), before ++ [.expression (.integer 1)]) := by
  intro call program
  have inside : Node.expression (.integer 1) ∈ program.nodes := by
    simp [program, call, Program.nodes, statementNodes, Statement.nodes, Expression.nodes,
      expressionNodes]
  refine ⟨(apply_rejecting [.identifier "x"] program).2.1 ?_, ?_⟩
  · simp [program, call, Program.nodes, statementNodes, Statement.nodes, Expression.nodes,
      expressionNodes]
  · obtain ⟨before, value, later, split, mem, accepted, ends⟩ :=
      (apply_rejecting [.integer 1] program).2.2 ⟨_, List.mem_cons_self, inside⟩
    obtain rfl := List.mem_singleton.mp mem
    exact ⟨before, later, split, accepted _ mem, ends⟩

end Replacement

end MonkeyLang
