import MonkeyLang.Syntax.Traversal

/-!
# Comparing traversals

Two traversals, possibly in different monads, are compared by what they do at
each node. A relator says what it means that two computations build the same
tree; it is closed under sequencing. If the traversals do related things at every
node, given related walks, they do related things with every tree
(`Relator.Handles.onExpression`). Trees can be limited to a class that both
traversals stay in.

Against the traversal that leaves every walk as it is, which gives back every tree
(`Traversal.identity_onExpression`), this shows what a traversal leaves alone.
-/

set_option autoImplicit false

namespace MonkeyLang

/-! ## Classes of trees -/

/-- A class of trees. A tree is in it when its names and its parts are; numbers and booleans always
are. -/
structure SyntaxClass where
  name : String → Prop
  /-- Whether statements may be grouped. -/
  grouped : Prop
  statement : Statement → Prop
  statements : List Statement → Prop
  expression : Expression → Prop
  expressions : List Expression → Prop
  pairs : List (Expression × Expression) → Prop
  bind_iff : ∀ bound value, statement (.bind bound value) ↔ name bound ∧ expression value
  ret_iff : ∀ value, statement (.ret value) ↔ expression value
  evaluate_iff : ∀ value, statement (.evaluate value) ↔ expression value
  group_iff : ∀ body, statement (.group body) ↔ grouped ∧ statements body
  statements_nil : statements []
  statements_cons : ∀ first rest, statements (first :: rest) ↔ statement first ∧ statements rest
  identifier_iff : ∀ text, expression (.identifier text) ↔ name text
  integer : ∀ value, expression (.integer value)
  boolean : ∀ value, expression (.boolean value)
  unary_iff : ∀ operator operand, expression (.unary operator operand) ↔ expression operand
  binary_iff : ∀ operator left right,
    expression (.binary operator left right) ↔ expression left ∧ expression right
  conditional_none_iff : ∀ condition consequence,
    expression (.conditional condition consequence none) ↔
      expression condition ∧ statements consequence
  conditional_some_iff : ∀ condition consequence alternative,
    expression (.conditional condition consequence (some alternative)) ↔
      expression condition ∧ statements consequence ∧ statements alternative
  function_iff : ∀ parameters body, expression (.function parameters body) ↔
    (∀ parameter ∈ parameters, name parameter) ∧ statements body
  call_iff : ∀ callee arguments,
    expression (.call callee arguments) ↔ expression callee ∧ expressions arguments
  array_iff : ∀ elements, expression (.array elements) ↔ expressions elements
  index_iff : ∀ collection position,
    expression (.index collection position) ↔ expression collection ∧ expression position
  hash_iff : ∀ list, expression (.hash list) ↔ pairs list
  macroLiteral_iff : ∀ parameters body, expression (.macroLiteral parameters body) ↔
    (∀ parameter ∈ parameters, name parameter) ∧ statements body
  expressions_nil : expressions []
  expressions_cons : ∀ first rest,
    expressions (first :: rest) ↔ expression first ∧ expressions rest
  pairs_nil : pairs []
  pairs_cons : ∀ key value rest,
    pairs ((key, value) :: rest) ↔ (expression key ∧ expression value) ∧ pairs rest

/-- All trees. -/
def SyntaxClass.all : SyntaxClass where
  name _ := True
  grouped := True
  statement _ := True
  statements _ := True
  expression _ := True
  expressions _ := True
  pairs _ := True
  bind_iff := by simp
  ret_iff := by simp
  evaluate_iff := by simp
  group_iff := by simp
  statements_nil := trivial
  statements_cons := by simp
  identifier_iff := by simp
  integer _ := trivial
  boolean _ := trivial
  unary_iff := by simp
  binary_iff := by simp
  conditional_none_iff := by simp
  conditional_some_iff := by simp
  function_iff := by simp
  call_iff := by simp
  array_iff := by simp
  index_iff := by simp
  hash_iff := by simp
  macroLiteral_iff := by simp
  expressions_nil := trivial
  expressions_cons := by simp
  pairs_nil := trivial
  pairs_cons := by simp

/-! ## Relators -/

/-- A way to compare computations of two monads. -/
structure Relator (m m' : Type → Type) [Monad m] [Monad m'] where
  /-- Both computations build the same tree, and it has the property. -/
  Builds : {α : Type} → (α → Prop) → m α → m' α → Prop
  builds_pure : ∀ {α : Type} {inside : α → Prop} {tree : α}, inside tree →
    Builds inside (pure tree) (pure tree)
  builds_bind : ∀ {α β : Type} {inside : α → Prop} {inside' : β → Prop} {first : m α}
    {first' : m' α} {next : α → m β} {next' : α → m' β}, Builds inside first first' →
      (∀ tree, inside tree → Builds inside' (next tree) (next' tree)) →
        Builds inside' (first >>= next) (first' >>= next')

namespace Relator

variable {m m' : Type → Type} [Monad m] [Monad m'] {relator : Relator m m'}

/-- At every node of the class the traversals do related things, given related walks. -/
structure Handles (relator : Relator m m') (trees : SyntaxClass) (traversal : Traversal m)
    (traversal' : Traversal m') : Prop where
  statement : ∀ {node walk walk'}, trees.statement node →
    relator.Builds trees.statement walk walk' →
      relator.Builds trees.statement (traversal.statement node walk)
        (traversal'.statement node walk')
  block : ∀ {node walk walk'}, trees.statements node →
    relator.Builds trees.statements walk walk' →
      relator.Builds trees.statements (traversal.block node walk) (traversal'.block node walk')
  expression : ∀ {node walk walk'}, trees.expression node →
    relator.Builds trees.expression walk walk' →
      relator.Builds trees.expression (traversal.expression node walk)
        (traversal'.expression node walk')

variable {trees : SyntaxClass} {traversal : Traversal m} {traversal' : Traversal m'}

mutual
theorem Handles.onStatement (handles : relator.Handles trees traversal traversal') :
    ∀ {statement : Statement}, trees.statement statement →
      relator.Builds trees.statement (traversal.onStatement statement)
        (traversal'.onStatement statement)
  | .bind name value, inside => by
    have parts := (trees.bind_iff name value).mp inside
    refine handles.statement inside (relator.builds_bind (handles.onExpression parts.2) ?_)
    exact fun _ value => relator.builds_pure ((trees.bind_iff _ _).mpr ⟨parts.1, value⟩)
  | .ret value, inside => by
    have part := (trees.ret_iff value).mp inside
    refine handles.statement inside (relator.builds_bind (handles.onExpression part) ?_)
    exact fun _ value => relator.builds_pure ((trees.ret_iff _).mpr value)
  | .evaluate value, inside => by
    have part := (trees.evaluate_iff value).mp inside
    refine handles.statement inside (relator.builds_bind (handles.onExpression part) ?_)
    exact fun _ value => relator.builds_pure ((trees.evaluate_iff _).mpr value)
  | .group body, inside => by
    have parts := (trees.group_iff body).mp inside
    refine handles.statement inside
      (relator.builds_bind (handles.block parts.2 (handles.onStatements parts.2)) ?_)
    exact fun _ body => relator.builds_pure ((trees.group_iff _).mpr ⟨parts.1, body⟩)

theorem Handles.onStatements (handles : relator.Handles trees traversal traversal') :
    ∀ {body : List Statement}, trees.statements body →
      relator.Builds trees.statements (traversal.onStatements body)
        (traversal'.onStatements body)
  | [], _ => relator.builds_pure trees.statements_nil
  | first :: rest, inside => by
    have parts := (trees.statements_cons first rest).mp inside
    refine relator.builds_bind (handles.onStatement parts.1) fun _ first => ?_
    refine relator.builds_bind (handles.onStatements parts.2) fun _ rest => ?_
    exact relator.builds_pure ((trees.statements_cons _ _).mpr ⟨first, rest⟩)

/-- **Traversals that do related things at every node do related things with every tree.** -/
theorem Handles.onExpression (handles : relator.Handles trees traversal traversal') :
    ∀ {expression : Expression}, trees.expression expression →
      relator.Builds trees.expression (traversal.onExpression expression)
        (traversal'.onExpression expression)
  | .identifier _, inside | .integer _, inside | .string _, inside | .boolean _, inside =>
    handles.expression inside (relator.builds_pure inside)
  | .unary operator operand, inside => by
    have part := (trees.unary_iff operator operand).mp inside
    refine handles.expression inside (relator.builds_bind (handles.onExpression part) ?_)
    exact fun _ operand => relator.builds_pure ((trees.unary_iff _ _).mpr operand)
  | .binary operator left right, inside => by
    have parts := (trees.binary_iff operator left right).mp inside
    refine handles.expression inside ?_
    refine relator.builds_bind (handles.onExpression parts.1) fun _ left => ?_
    refine relator.builds_bind (handles.onExpression parts.2) fun _ right => ?_
    exact relator.builds_pure ((trees.binary_iff _ _ _).mpr ⟨left, right⟩)
  | .conditional condition consequence none, inside => by
    have parts := (trees.conditional_none_iff condition consequence).mp inside
    refine handles.expression inside ?_
    refine relator.builds_bind (handles.onExpression parts.1) fun _ condition => ?_
    refine relator.builds_bind (handles.block parts.2 (handles.onStatements parts.2)) ?_
    exact fun _ consequence =>
      relator.builds_pure ((trees.conditional_none_iff _ _).mpr ⟨condition, consequence⟩)
  | .conditional condition consequence (some alternative), inside => by
    have parts := (trees.conditional_some_iff condition consequence alternative).mp inside
    refine handles.expression inside ?_
    refine relator.builds_bind (handles.onExpression parts.1) fun _ condition => ?_
    refine relator.builds_bind (handles.block parts.2.1 (handles.onStatements parts.2.1)) ?_
    intro _ consequence
    refine relator.builds_bind (handles.block parts.2.2 (handles.onStatements parts.2.2)) ?_
    exact fun _ alternative => relator.builds_pure
      ((trees.conditional_some_iff _ _ _).mpr ⟨condition, consequence, alternative⟩)
  | .function parameters body, inside => by
    have parts := (trees.function_iff parameters body).mp inside
    refine handles.expression inside
      (relator.builds_bind (handles.block parts.2 (handles.onStatements parts.2)) ?_)
    exact fun _ body => relator.builds_pure ((trees.function_iff _ _).mpr ⟨parts.1, body⟩)
  | .call callee arguments, inside => by
    have parts := (trees.call_iff callee arguments).mp inside
    refine handles.expression inside ?_
    refine relator.builds_bind (handles.onExpression parts.1) fun _ callee => ?_
    refine relator.builds_bind (handles.onExpressions parts.2) fun _ arguments => ?_
    exact relator.builds_pure ((trees.call_iff _ _).mpr ⟨callee, arguments⟩)
  | .array elements, inside => by
    have part := (trees.array_iff elements).mp inside
    refine handles.expression inside (relator.builds_bind (handles.onExpressions part) ?_)
    exact fun _ elements => relator.builds_pure ((trees.array_iff _).mpr elements)
  | .index collection position, inside => by
    have parts := (trees.index_iff collection position).mp inside
    refine handles.expression inside ?_
    refine relator.builds_bind (handles.onExpression parts.1) fun _ collection => ?_
    refine relator.builds_bind (handles.onExpression parts.2) fun _ position => ?_
    exact relator.builds_pure ((trees.index_iff _ _).mpr ⟨collection, position⟩)
  | .hash pairs, inside => by
    have part := (trees.hash_iff pairs).mp inside
    refine handles.expression inside (relator.builds_bind (handles.onPairs part) ?_)
    exact fun _ pairs => relator.builds_pure ((trees.hash_iff _).mpr pairs)
  | .macroLiteral parameters body, inside => by
    have parts := (trees.macroLiteral_iff parameters body).mp inside
    refine handles.expression inside
      (relator.builds_bind (handles.block parts.2 (handles.onStatements parts.2)) ?_)
    exact fun _ body => relator.builds_pure ((trees.macroLiteral_iff _ _).mpr ⟨parts.1, body⟩)

theorem Handles.onExpressions (handles : relator.Handles trees traversal traversal') :
    ∀ {list : List Expression}, trees.expressions list →
      relator.Builds trees.expressions (traversal.onExpressions list)
        (traversal'.onExpressions list)
  | [], _ => relator.builds_pure trees.expressions_nil
  | first :: rest, inside => by
    have parts := (trees.expressions_cons first rest).mp inside
    refine relator.builds_bind (handles.onExpression parts.1) fun _ first => ?_
    refine relator.builds_bind (handles.onExpressions parts.2) fun _ rest => ?_
    exact relator.builds_pure ((trees.expressions_cons _ _).mpr ⟨first, rest⟩)

theorem Handles.onPairs (handles : relator.Handles trees traversal traversal') :
    ∀ {list : List (Expression × Expression)}, trees.pairs list →
      relator.Builds trees.pairs (traversal.onPairs list) (traversal'.onPairs list)
  | [], _ => relator.builds_pure trees.pairs_nil
  | (key, value) :: rest, inside => by
    have parts := (trees.pairs_cons key value rest).mp inside
    refine relator.builds_bind (handles.onExpression parts.1.1) fun _ key => ?_
    refine relator.builds_bind (handles.onExpression parts.1.2) fun _ value => ?_
    refine relator.builds_bind (handles.onPairs parts.2) fun _ rest => ?_
    exact relator.builds_pure ((trees.pairs_cons _ _ _).mpr ⟨⟨key, value⟩, rest⟩)
end

end Relator

/-! ## The traversal that changes nothing -/

namespace Traversal

/-- The traversal that leaves every walk as it is. -/
def identity : Traversal Id where
  statement _ walk := walk
  block _ walk := walk
  expression _ walk := walk

mutual
theorem identity_onStatement : ∀ statement : Statement,
    identity.onStatement statement = statement
  | .bind name value => congrArg (Statement.bind name) (identity_onExpression value)
  | .ret value => congrArg Statement.ret (identity_onExpression value)
  | .evaluate expression => congrArg Statement.evaluate (identity_onExpression expression)
  | .group body => congrArg Statement.group (identity_onStatements body)

theorem identity_onStatements : ∀ body : List Statement, identity.onStatements body = body
  | [] => rfl
  | first :: rest => by
    have cons := congrArg List.cons (identity_onStatement first)
    exact (congr cons (identity_onStatements rest) :)

/-- It gives back every tree. -/
theorem identity_onExpression : ∀ expression : Expression,
    identity.onExpression expression = expression
  | .identifier _ | .integer _ | .string _ | .boolean _ => rfl
  | .unary operator operand => congrArg (Expression.unary operator) (identity_onExpression operand)
  | .binary operator left right => by
    have binary := congrArg (Expression.binary operator) (identity_onExpression left)
    exact (congr binary (identity_onExpression right) :)
  | .conditional condition consequence none => by
    have conditional := congr (congrArg Expression.conditional (identity_onExpression condition))
      (identity_onStatements consequence)
    exact (congrFun conditional none :)
  | .conditional condition consequence (some alternative) => by
    have conditional := congr (congrArg Expression.conditional (identity_onExpression condition))
      (identity_onStatements consequence)
    exact (congr conditional (congrArg some (identity_onStatements alternative)) :)
  | .function parameters body =>
    congrArg (Expression.function parameters) (identity_onStatements body)
  | .call callee arguments => by
    have call := congrArg Expression.call (identity_onExpression callee)
    exact (congr call (identity_onExpressions arguments) :)
  | .array elements => congrArg Expression.array (identity_onExpressions elements)
  | .index collection position => by
    have index := congrArg Expression.index (identity_onExpression collection)
    exact (congr index (identity_onExpression position) :)
  | .hash pairs => congrArg Expression.hash (identity_onPairs pairs)
  | .macroLiteral parameters body =>
    congrArg (Expression.macroLiteral parameters) (identity_onStatements body)

theorem identity_onExpressions : ∀ list : List Expression, identity.onExpressions list = list
  | [] => rfl
  | first :: rest => by
    have cons := congrArg List.cons (identity_onExpression first)
    exact (congr cons (identity_onExpressions rest) :)

theorem identity_onPairs : ∀ list : List (Expression × Expression), identity.onPairs list = list
  | [] => rfl
  | (key, value) :: rest => by
    have pair := congr (congrArg Prod.mk (identity_onExpression key)) (identity_onExpression value)
    exact (congr (congrArg List.cons pair) (identity_onPairs rest) :)
end

end Traversal

end MonkeyLang
