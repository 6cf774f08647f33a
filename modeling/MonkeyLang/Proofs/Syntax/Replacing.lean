import MonkeyLang.Proofs.Syntax.Recording

/-!
# Replacing leaves

A leaf is an expression without parts: an identifier or a literal. To replace a leaf in a tree is to
put another expression in every place where it stands as an expression (`Program.replaceAll`). Names
that are bound stay, and the expression that was put in is not searched.

A rule for a leaf can be applied before a walk or after it. The two differ for other expressions:
what a walk builds around replaced parts may be an expression that the rule names, and before a walk
it is found at places that the walk would have changed. But a walk gives a leaf back as it is, and
builds no leaf of anything else (`Replacement.Replaces.onExpression_eq`). So both ways give the same
program and reach the same nodes (`Replacement.apply_leaf_rule`). And a leaf that did not stand in
the program is found again exactly where it was put in, so the rule can be undone
(`Statement.replaceAll_undone`).
-/

set_option autoImplicit false

namespace MonkeyLang

/-! ## Trees with a leaf replaced -/

/-- Identifiers and literals. -/
def Expression.IsLeaf : Expression → Prop
  | .identifier _ | .integer _ | .string _ | .boolean _ => True
  | _ => False

/-- The expression, or what the rule puts in its place. -/
def Expression.replace (rule : Expression × Expression) (value : Expression) : Expression :=
  if value = rule.1 then rule.2 else value

mutual
/-- The statement with a leaf replaced by the rule for it. -/
def Statement.replaceAll (rule : Expression × Expression) : Statement → Statement
  | .bind name value => .bind name (value.replaceAll rule)
  | .ret value => .ret (value.replaceAll rule)
  | .evaluate value => .evaluate (value.replaceAll rule)
  | .group body => .group (replaceStatements rule body)

/-- The statements with the leaf replaced. -/
def replaceStatements (rule : Expression × Expression) : List Statement → List Statement
  | [] => []
  | first :: rest => first.replaceAll rule :: replaceStatements rule rest

/-- The expression with the leaf replaced. -/
def Expression.replaceAll (rule : Expression × Expression) : Expression → Expression
  | .identifier name => Expression.replace rule (.identifier name)
  | .integer value => Expression.replace rule (.integer value)
  | .string text => Expression.replace rule (.string text)
  | .boolean value => Expression.replace rule (.boolean value)
  | .unary operator operand => .unary operator (operand.replaceAll rule)
  | .binary operator left right =>
    .binary operator (left.replaceAll rule) (right.replaceAll rule)
  | .conditional condition consequence none =>
    .conditional (condition.replaceAll rule) (replaceStatements rule consequence) none
  | .conditional condition consequence (some alternative) =>
    .conditional (condition.replaceAll rule) (replaceStatements rule consequence)
      (some (replaceStatements rule alternative))
  | .function parameters body => .function parameters (replaceStatements rule body)
  | .call callee arguments =>
    .call (callee.replaceAll rule) (replaceExpressions rule arguments)
  | .array elements => .array (replaceExpressions rule elements)
  | .index collection position =>
    .index (collection.replaceAll rule) (position.replaceAll rule)
  | .hash pairs => .hash (replacePairs rule pairs)
  | .macroLiteral parameters body => .macroLiteral parameters (replaceStatements rule body)

/-- The expressions with the leaf replaced. -/
def replaceExpressions (rule : Expression × Expression) : List Expression → List Expression
  | [] => []
  | first :: rest => first.replaceAll rule :: replaceExpressions rule rest

/-- The keys and values with the leaf replaced. -/
def replacePairs (rule : Expression × Expression) :
    List (Expression × Expression) → List (Expression × Expression)
  | [] => []
  | (key, value) :: rest =>
    (key.replaceAll rule, value.replaceAll rule) :: replacePairs rule rest
end

/-- The program with the leaf replaced. -/
def Program.replaceAll (rule : Expression × Expression) (program : Program) : Program :=
  replaceStatements rule program

/-! ## Replacing and walking -/

namespace Replacement

variable {rule : Expression × Expression} {rules : Traversal Recording}

/-- The traversal records all nodes, replaces the leaf, and leaves to its walk what the walk does not
make a leaf of. -/
structure Replaces (rule : Expression × Expression) (rules : Traversal Recording) : Prop where
  statement : ∀ node walk,
    rules.statement node walk = record [] (.statement node) >>= fun _ => walk
  block : ∀ node walk, rules.block node walk = record [] (.block node) >>= fun _ => walk
  leaf : ∀ {node : Expression}, node.IsLeaf → rules.expression node (return node) =
    record [] (.expression node) >>= fun _ => return node.replace rule
  inner : ∀ {node built : Expression} {nodes : List Node}, ¬ node.IsLeaf → ¬ built.IsLeaf →
    rules.expression node (recordAll [] nodes >>= fun _ => return built) =
      record [] (.expression node) >>= fun _ => recordAll [] nodes >>= fun _ => return built

theorem lookup_rule (rule : Expression × Expression) (value : Expression) :
    [rule].lookup value = if value = rule.1 then some rule.2 else none := by
  rw [List.lookup_cons, List.lookup_nil]
  by_cases same : value = rule.1
  · rw [beq_iff_eq.mpr same, if_pos same]
  · rw [beq_eq_false_iff_ne.mpr same, if_neg same]

theorem replaces_before (isLeaf : rule.1.IsLeaf) :
    Replaces rule (traversal { before := [rule] }) where
  statement _ _ := rfl
  block _ _ := rfl
  leaf {node} _ := by
    by_cases same : node = rule.1 <;>
      simp [traversal, record, lookup_rule, Expression.replace, same]
  inner {node built nodes} notLeaf _ := by
    have other : node ≠ rule.1 := fun same => notLeaf (same ▸ isLeaf)
    simp [traversal, record, lookup_rule, other]

theorem replaces_after (isLeaf : rule.1.IsLeaf) :
    Replaces rule (traversal { after := [rule] }) where
  statement _ _ := rfl
  block _ _ := rfl
  leaf {node} _ := by
    by_cases same : node = rule.1 <;>
      simp [traversal, record, lookup_rule, Expression.replace, same]
  inner {node built nodes} _ notLeaf := by
    have other : built ≠ rule.1 := fun same => notLeaf (same ▸ isLeaf)
    simp [traversal, record, lookup_rule, other]

namespace Replaces

variable (replaces : Replaces rule rules)

include replaces in
/-- An expression that is no leaf is built again from its walk. -/
theorem onInner {node built : Expression} {walk : Recording Expression} {nodes : List Node}
    (notLeaf : ¬ node.IsLeaf) (notLeaf' : ¬ built.IsLeaf)
    (walks : walk = recordAll [] nodes >>= fun _ => return built) :
    rules.expression node walk =
      recordAll [] (.expression node :: nodes) >>= fun _ => return built := by
  rw [walks, replaces.inner notLeaf notLeaf', recordAll, bind_assoc]

include replaces in
theorem onLeaf (node : Expression) (isLeaf : node.IsLeaf) :
    rules.expression node (return node) =
      recordAll [] [.expression node] >>= fun _ => return node.replace rule := by
  simp [replaces.leaf isLeaf, recordAll]

mutual
theorem onStatement_eq (replaces : Replaces rule rules) : ∀ statement : Statement,
    rules.onStatement statement = recordAll [] statement.nodes >>= fun _ =>
      return statement.replaceAll rule
  | .bind name value => by
    simp [Traversal.onStatement, replaces.statement, Statement.nodes, recordAll,
      replaces.onExpression_eq value, Statement.replaceAll]
  | .ret value => by
    simp [Traversal.onStatement, replaces.statement, Statement.nodes, recordAll,
      replaces.onExpression_eq value, Statement.replaceAll]
  | .evaluate value => by
    simp [Traversal.onStatement, replaces.statement, Statement.nodes, recordAll,
      replaces.onExpression_eq value, Statement.replaceAll]
  | .group body => by
    simp [Traversal.onStatement, replaces.statement, replaces.block, Statement.nodes, recordAll,
      replaces.onStatements_eq body, Statement.replaceAll]

theorem onStatements_eq (replaces : Replaces rule rules) :
    ∀ body : List Statement, rules.onStatements body =
      recordAll [] (statementNodes body) >>= fun _ =>
        return replaceStatements rule body
  | [] => by simp [Traversal.onStatements, statementNodes, recordAll, replaceStatements]
  | first :: rest => by
    simp [Traversal.onStatements, statementNodes, recordAll_append, replaces.onStatement_eq first,
      replaces.onStatements_eq rest, replaceStatements]

/-- **A walk records all nodes of the tree and gives the tree with the leaf replaced.** -/
theorem onExpression_eq (replaces : Replaces rule rules) : ∀ value : Expression,
    rules.onExpression value = recordAll [] value.nodes >>= fun _ =>
      return value.replaceAll rule
  | .identifier name => replaces.onLeaf (.identifier name) trivial
  | .integer value => replaces.onLeaf (.integer value) trivial
  | .string text => replaces.onLeaf (.string text) trivial
  | .boolean value => replaces.onLeaf (.boolean value) trivial
  | .unary operator operand => by
    refine replaces.onInner id id ?_
    simp [replaces.onExpression_eq operand, Expression.replaceAll]
  | .binary operator left right => by
    refine replaces.onInner id id ?_
    simp [recordAll_append, replaces.onExpression_eq left, replaces.onExpression_eq right,
      Expression.replaceAll]
  | .conditional condition consequence none => by
    refine replaces.onInner id id ?_
    simp [recordAll, recordAll_append, replaces.block, replaces.onExpression_eq condition,
      replaces.onStatements_eq consequence, Expression.replaceAll]
  | .conditional condition consequence (some alternative) => by
    refine replaces.onInner id id ?_
    simp [recordAll, recordAll_append, replaces.block, replaces.onExpression_eq condition,
      replaces.onStatements_eq consequence, replaces.onStatements_eq alternative,
      Expression.replaceAll]
  | .function parameters body => by
    refine replaces.onInner id id ?_
    simp [recordAll, replaces.block, replaces.onStatements_eq body, Expression.replaceAll]
  | .call callee arguments => by
    refine replaces.onInner id id ?_
    simp [recordAll_append, replaces.onExpression_eq callee, replaces.onExpressions_eq arguments,
      Expression.replaceAll]
  | .array elements => by
    refine replaces.onInner id id ?_
    simp [replaces.onExpressions_eq elements, Expression.replaceAll]
  | .index collection position => by
    refine replaces.onInner id id ?_
    simp [recordAll_append, replaces.onExpression_eq collection,
      replaces.onExpression_eq position, Expression.replaceAll]
  | .hash pairs => by
    refine replaces.onInner id id ?_
    simp [replaces.onPairs_eq pairs, Expression.replaceAll]
  | .macroLiteral parameters body => by
    refine replaces.onInner id id ?_
    simp [recordAll, replaces.block, replaces.onStatements_eq body, Expression.replaceAll]

theorem onExpressions_eq (replaces : Replaces rule rules) :
    ∀ list : List Expression, rules.onExpressions list =
      recordAll [] (expressionNodes list) >>= fun _ =>
        return replaceExpressions rule list
  | [] => by simp [Traversal.onExpressions, expressionNodes, recordAll, replaceExpressions]
  | first :: rest => by
    simp [Traversal.onExpressions, expressionNodes, recordAll_append,
      replaces.onExpression_eq first, replaces.onExpressions_eq rest, replaceExpressions]

theorem onPairs_eq (replaces : Replaces rule rules) :
    ∀ pairs : List (Expression × Expression), rules.onPairs pairs =
      recordAll [] (pairNodes pairs) >>= fun _ => return replacePairs rule pairs
  | [] => by simp [Traversal.onPairs, pairNodes, recordAll, replacePairs]
  | (key, value) :: rest => by
    simp [Traversal.onPairs, pairNodes, recordAll_append, replaces.onExpression_eq key,
      replaces.onExpression_eq value, replaces.onPairs_eq rest, replacePairs]
end

end Replaces

end Replacement

/-! ## Undoing a rule -/

section

variable {rule : Expression × Expression}

theorem Expression.replaceAll_of_isLeaf {value : Expression} (isLeaf : value.IsLeaf) :
    value.replaceAll rule = value.replace rule := by
  cases value <;> first | rfl | cases isLeaf

theorem Expression.replace_undone (isLeaf : rule.2.IsLeaf) (value : Expression)
    (valueLeaf : value.IsLeaf) (fresh : rule.2 ≠ value) :
    (value.replace rule).replaceAll rule.swap = value := by
  by_cases same : value = rule.1
  · rw [replace, if_pos same, replaceAll_of_isLeaf isLeaf, replace]
    exact (if_pos rfl).trans same.symm
  · rw [replace, if_neg same, replaceAll_of_isLeaf valueLeaf, replace]
    exact if_neg fresh.symm

mutual
theorem Statement.replaceAll_undone (isLeaf : rule.2.IsLeaf) : ∀ statement : Statement,
    .expression rule.2 ∉ statement.nodes →
      (statement.replaceAll rule).replaceAll rule.swap = statement
  | .bind name value, fresh => by
    simp only [Statement.nodes, List.mem_cons, not_or] at fresh
    simp only [Statement.replaceAll, value.replaceAll_undone isLeaf fresh.2]
  | .ret value, fresh => by
    simp only [Statement.nodes, List.mem_cons, not_or] at fresh
    simp only [Statement.replaceAll, value.replaceAll_undone isLeaf fresh.2]
  | .evaluate value, fresh => by
    simp only [Statement.nodes, List.mem_cons, not_or] at fresh
    simp only [Statement.replaceAll, value.replaceAll_undone isLeaf fresh.2]
  | .group body, fresh => by
    simp only [Statement.nodes, List.mem_cons, not_or] at fresh
    simp only [Statement.replaceAll, replaceStatements_undone isLeaf body fresh.2.2]

theorem replaceStatements_undone (isLeaf : rule.2.IsLeaf) : ∀ body : List Statement,
    .expression rule.2 ∉ statementNodes body →
      replaceStatements rule.swap (replaceStatements rule body) = body
  | [], _ => rfl
  | first :: rest, fresh => by
    simp only [statementNodes, List.mem_append, not_or] at fresh
    simp only [replaceStatements, first.replaceAll_undone isLeaf fresh.1,
      replaceStatements_undone isLeaf rest fresh.2]

/-- **A leaf that did not stand in the tree is found again exactly where it was put in.** -/
theorem Expression.replaceAll_undone (isLeaf : rule.2.IsLeaf) : ∀ value : Expression,
    .expression rule.2 ∉ value.nodes → (value.replaceAll rule).replaceAll rule.swap = value
  | .identifier name, fresh => by
    simp only [Expression.nodes, List.mem_singleton, Node.expression.injEq] at fresh
    exact Expression.replace_undone isLeaf (.identifier name) trivial fresh
  | .integer value, fresh => by
    simp only [Expression.nodes, List.mem_singleton, Node.expression.injEq] at fresh
    exact Expression.replace_undone isLeaf (.integer value) trivial fresh
  | .string text, fresh => by
    simp only [Expression.nodes, List.mem_singleton, Node.expression.injEq] at fresh
    exact Expression.replace_undone isLeaf (.string text) trivial fresh
  | .boolean value, fresh => by
    simp only [Expression.nodes, List.mem_singleton, Node.expression.injEq] at fresh
    exact Expression.replace_undone isLeaf (.boolean value) trivial fresh
  | .unary operator operand, fresh => by
    simp only [Expression.nodes, List.mem_cons, not_or] at fresh
    simp only [Expression.replaceAll, operand.replaceAll_undone isLeaf fresh.2]
  | .binary operator left right, fresh => by
    simp only [Expression.nodes, List.mem_cons, List.mem_append, not_or] at fresh
    simp only [Expression.replaceAll, left.replaceAll_undone isLeaf fresh.2.1,
      right.replaceAll_undone isLeaf fresh.2.2]
  | .conditional condition consequence none, fresh => by
    simp only [Expression.nodes, List.mem_cons, List.mem_append, not_or] at fresh
    simp only [Expression.replaceAll, condition.replaceAll_undone isLeaf fresh.2.1,
      replaceStatements_undone isLeaf consequence fresh.2.2.2]
  | .conditional condition consequence (some alternative), fresh => by
    simp only [Expression.nodes, List.mem_cons, List.mem_append, not_or] at fresh
    simp only [Expression.replaceAll, condition.replaceAll_undone isLeaf fresh.2.1,
      replaceStatements_undone isLeaf consequence fresh.2.2.2.1,
      replaceStatements_undone isLeaf alternative fresh.2.2.2.2.2]
  | .function parameters body, fresh => by
    simp only [Expression.nodes, List.mem_cons, not_or] at fresh
    simp only [Expression.replaceAll, replaceStatements_undone isLeaf body fresh.2.2]
  | .call callee arguments, fresh => by
    simp only [Expression.nodes, List.mem_cons, List.mem_append, not_or] at fresh
    simp only [Expression.replaceAll, callee.replaceAll_undone isLeaf fresh.2.1,
      replaceExpressions_undone isLeaf arguments fresh.2.2]
  | .array elements, fresh => by
    simp only [Expression.nodes, List.mem_cons, not_or] at fresh
    simp only [Expression.replaceAll, replaceExpressions_undone isLeaf elements fresh.2]
  | .index collection position, fresh => by
    simp only [Expression.nodes, List.mem_cons, List.mem_append, not_or] at fresh
    simp only [Expression.replaceAll, collection.replaceAll_undone isLeaf fresh.2.1,
      position.replaceAll_undone isLeaf fresh.2.2]
  | .hash pairs, fresh => by
    simp only [Expression.nodes, List.mem_cons, not_or] at fresh
    simp only [Expression.replaceAll, replacePairs_undone isLeaf pairs fresh.2]
  | .macroLiteral parameters body, fresh => by
    simp only [Expression.nodes, List.mem_cons, not_or] at fresh
    simp only [Expression.replaceAll, replaceStatements_undone isLeaf body fresh.2.2]

theorem replaceExpressions_undone (isLeaf : rule.2.IsLeaf) : ∀ list : List Expression,
    .expression rule.2 ∉ expressionNodes list →
      replaceExpressions rule.swap (replaceExpressions rule list) = list
  | [], _ => rfl
  | first :: rest, fresh => by
    simp only [expressionNodes, List.mem_append, not_or] at fresh
    simp only [replaceExpressions, first.replaceAll_undone isLeaf fresh.1,
      replaceExpressions_undone isLeaf rest fresh.2]

theorem replacePairs_undone (isLeaf : rule.2.IsLeaf) :
    ∀ pairs : List (Expression × Expression), .expression rule.2 ∉ pairNodes pairs →
      replacePairs rule.swap (replacePairs rule pairs) = pairs
  | [], _ => rfl
  | (key, value) :: rest, fresh => by
    simp only [pairNodes, List.mem_append, not_or] at fresh
    simp only [replacePairs, key.replaceAll_undone isLeaf fresh.1,
      value.replaceAll_undone isLeaf fresh.2.1, replacePairs_undone isLeaf rest fresh.2.2]
end

end

/-! ## Rules for leaves -/

namespace Replacement

variable {rule : Expression × Expression}

theorem Replaces.run_onProgram {rules : Traversal Recording} (replaces : Replaces rule rules)
    (program : Program) :
    (rules.onProgram program).run.run [] = (.ok (program.replaceAll rule), program.nodes) := by
  have accepted : ∀ value ∈ ([] : List Expression), .expression value ∉ program.nodes :=
    fun _ mem => absurd mem List.not_mem_nil
  have recorded := run_recordAll accepted []
  rw [Traversal.onProgram, replaces.onStatements_eq]
  exact run_bind_of_ok recorded _

/-- **A rule for a leaf does the same before and after the walk.** Both ways give the program with
the leaf replaced wherever it stands as an expression, and both reach exactly the nodes of the
program, in the order of the text. If what was put in is a leaf that did not stand in the program,
the rule the other way round gives the program back, again in both ways. -/
theorem apply_leaf_rule (rule : Expression × Expression) (isLeaf : rule.1.IsLeaf)
    (program : Program) :
    apply { before := [rule] } program = (.ok (program.replaceAll rule), program.nodes) ∧
      apply { after := [rule] } program = (.ok (program.replaceAll rule), program.nodes) ∧
      (rule.2.IsLeaf → .expression rule.2 ∉ program.nodes →
        (apply { before := [rule.swap] } (program.replaceAll rule)).1 = .ok program ∧
        (apply { after := [rule.swap] } (program.replaceAll rule)).1 = .ok program) := by
  refine ⟨(replaces_before isLeaf).run_onProgram program,
    (replaces_after isLeaf).run_onProgram program, fun isLeaf' fresh => ?_⟩
  have undone : (program.replaceAll rule).replaceAll rule.swap = program :=
    replaceStatements_undone isLeaf' program fresh
  have before : Replaces rule.swap (traversal { before := [rule.swap] }) := replaces_before isLeaf'
  have after : Replaces rule.swap (traversal { after := [rule.swap] }) := replaces_after isLeaf'
  rw [apply, apply, before.run_onProgram, after.run_onProgram, undone]
  exact ⟨rfl, rfl⟩

/-- In `let x = x + f(x)` the identifier `x` becomes `y` and comes back, and the bound name stays. -/
theorem apply_leaf_rule_bound :
    let rule : Expression × Expression := (.identifier "x", .identifier "y")
    let program (argument : Expression) : Program :=
      [.bind "x" (.binary .add argument (.call (.identifier "f") [argument]))]
    rule.1.IsLeaf ∧ rule.2.IsLeaf ∧ .expression rule.2 ∉ (program rule.1).nodes ∧
      apply { before := [rule] } (program rule.1) =
        (.ok (program rule.2), (program rule.1).nodes) ∧
      apply { after := [rule] } (program rule.1) =
        (.ok (program rule.2), (program rule.1).nodes) ∧
      (apply { before := [rule.swap] } (program rule.2)).1 = .ok (program rule.1) ∧
      (apply { after := [rule.swap] } (program rule.2)).1 = .ok (program rule.1) := by
  intro rule program
  have fresh : .expression rule.2 ∉ (program rule.1).nodes := by
    simp [program, rule, Program.nodes, statementNodes, Statement.nodes, Expression.nodes,
      expressionNodes]
  have replaced : (program rule.1).replaceAll rule = program rule.2 := by
    simp [program, rule, Program.replaceAll, replaceStatements, Statement.replaceAll,
      Expression.replaceAll, replaceExpressions, Expression.replace]
  obtain ⟨before, after, undone⟩ := apply_leaf_rule rule trivial (program rule.1)
  rw [replaced] at before after undone
  exact ⟨trivial, trivial, fresh, before, after, undone trivial fresh⟩

/-- A rule for another expression can meet its own traces: after the walk `[x]` is found again. -/
example :
    let rule : Expression × Expression := (.array [.identifier "x"], .identifier "x")
    let program : Program := [.evaluate (.array [.array [.identifier "x"]])]
    (apply { before := [rule] } program).1 = .ok [.evaluate (.array [.identifier "x"])] ∧
      (apply { after := [rule] } program).1 = .ok [.evaluate (.identifier "x")] := by
  decide +kernel

end Replacement

end MonkeyLang
