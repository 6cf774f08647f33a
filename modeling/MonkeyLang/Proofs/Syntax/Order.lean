import MonkeyLang.Proofs.Evaluation.Parts
import MonkeyLang.Syntax.Replacement

/-!
# The order of a walk

The place of a node is the list of the numbers that lead to it, from a statement of the
program down to the node among the children of the node around it. Places are compared
number by number, so a node comes before the nodes inside it, and with all of these before
the nodes next to it. A list of nodes is in the order of the text when it goes through all
places in that order (`InTextOrder`); then every node is listed once for every place where
it stands.

The nodes of a program are listed by recursion over its tree (`Program.nodes`), and this list
is in the order of the text (`Program.inTextOrder_nodes`). A traversal that only records and
rejects is one run over the list: it reaches the nodes one after the other and ends at the
first that is rejected (`Replacement.onStatements_eq`). So nothing is left out, reached twice or
reached after a rejection (`Replacement.apply_rejecting`).
-/

set_option autoImplicit false

namespace MonkeyLang

/-! ## Nodes inside nodes -/

/-- A part as a node. -/
def Part.node : Part → Node
  | .expression value => .expression value
  | .block body => .block body

/-- The nodes directly inside a node, in the order of the text. -/
def Node.children : Node → List Node
  | .statement first => [first.part.node]
  | .block body => body.map .statement
  | .expression value => value.parts.map Part.node

/-- What holds of a node as soon as it holds of its children holds of every node. -/
@[elab_as_elim] theorem Node.inherited {property : Node → Prop}
    (inherits : ∀ node : Node, (∀ child ∈ node.children, property child) → property node)
    (node : Node) : property node := by
  have parts : ∀ part : Part, property part.node := by
    refine Part.Inherits.all fun part inner => ?_
    cases part with
    | expression value => exact inherits (.expression value) (List.forall_mem_map.mpr inner)
    | block body =>
        refine inherits (.block body) (List.forall_mem_map.mpr fun statement mem => ?_)
        exact inherits (.statement statement)
          (List.forall_mem_singleton.mpr (inner _ (List.mem_map_of_mem mem)))
  cases node with
  | statement first => exact inherits (.statement first) (List.forall_mem_singleton.mpr (parts _))
  | block body => exact parts (.block body)
  | expression value => exact parts (.expression value)

/-! ## Places -/

/-- The node itself, or a node inside it: the first number chooses a child, the next one a child of
that child, and so on. -/
def Node.at? (node : Node) : List Nat → Option Node
  | [] => some node
  | index :: place => node.children[index]?.bind fun child => child.at? place

/-- The node at a place among trees, the first number of which chooses a tree. -/
def nodeAt? (trees : List Node) : List Nat → Option Node
  | [] => none
  | index :: place => trees[index]?.bind fun tree => tree.at? place

/-- The nodes are those at the places where there is one, each place once, a node before the nodes
inside it, and with these before the nodes next to it. -/
def InTextOrder (find : List Nat → Option Node) (nodes : List Node) : Prop :=
  ∃ places : List (List Nat), places.Pairwise (· < ·) ∧
    (∀ place, place ∈ places ↔ (find place).isSome) ∧ nodes.map some = places.map find

/-- The place that a place is when one more tree stands before the others. -/
def nextPlace : List Nat → List Nat
  | [] => []
  | index :: place => (index + 1) :: place

theorem nodeAt?_nextPlace (first : Node) (rest : List Node) (place : List Nat) :
    nodeAt? (first :: rest) (nextPlace place) = nodeAt? rest place := by
  cases place <;> rfl

theorem nextPlace_lt {place other : List Nat} (before : place < other) :
    nextPlace place < nextPlace other := by
  cases other with
  | nil => exact absurd before (List.not_lt_nil place)
  | cons index other =>
      cases place with
      | nil => exact List.nil_lt_cons _ _
      | cons index' place =>
          rcases List.cons_lt_cons_iff.mp before with less | ⟨same, further⟩
          · exact List.cons_lt_cons_iff.mpr (.inl (Nat.succ_lt_succ less))
          · exact List.cons_lt_cons_iff.mpr (.inr ⟨congrArg (· + 1) same, further⟩)

theorem inTextOrder_nil : InTextOrder (nodeAt? []) [] := by
  refine ⟨[], List.Pairwise.nil, fun place => ?_, rfl⟩
  cases place <;> simp [nodeAt?]

/-- A tree before other trees. -/
theorem InTextOrder.cons {first : Node} {rest own others : List Node}
    (inner : InTextOrder first.at? own) (further : InTextOrder (nodeAt? rest) others) :
    InTextOrder (nodeAt? (first :: rest)) (own ++ others) := by
  obtain ⟨places, ordered, complete, listed⟩ := inner
  obtain ⟨places', ordered', complete', listed'⟩ := further
  have chosen : [] ∉ places' := fun mem => Bool.noConfusion ((complete' []).mp mem)
  refine ⟨places.map (0 :: ·) ++ places'.map nextPlace, ?_, fun place => ?_, ?_⟩
  · refine List.pairwise_append.mpr ⟨?_, ?_, ?_⟩
    · exact ordered.map _ fun place other before => List.cons_lt_cons_iff.mpr (.inr ⟨rfl, before⟩)
    · exact ordered'.map _ fun _ _ before => nextPlace_lt before
    · intro _ mem _ mem'
      obtain ⟨place, -, rfl⟩ := List.mem_map.mp mem
      obtain ⟨place', found, rfl⟩ := List.mem_map.mp mem'
      cases place' with
      | nil => exact absurd found chosen
      | cons index place' => exact List.cons_lt_cons_iff.mpr (.inl (Nat.succ_pos index))
  · simp only [List.mem_append, List.mem_map]
    rcases place with _ | ⟨index | index, place⟩
    · refine iff_of_false ?_ Bool.false_ne_true
      rintro (⟨_, -, same⟩ | ⟨place, mem, same⟩)
      · cases same
      · cases place with
        | nil => exact chosen mem
        | cons => cases same
    · refine Iff.trans ⟨?_, fun mem => .inl ⟨place, mem, rfl⟩⟩ (complete place)
      rintro (⟨_, mem, ⟨⟩⟩ | ⟨_ | _, mem, ⟨⟩⟩)
      exact mem
    · refine Iff.trans ⟨?_, fun mem => .inr ⟨index :: place, mem, rfl⟩⟩ (complete' (index :: place))
      rintro (⟨_, mem, ⟨⟩⟩ | ⟨_ | _, mem, ⟨⟩⟩)
      exact mem
  · rw [List.map_append, List.map_append, listed, listed', List.map_map, List.map_map]
    congr 1
    exact List.map_congr_left fun place _ => (nodeAt?_nextPlace first rest place).symm

/-- A node before the nodes inside it. -/
theorem InTextOrder.node {node : Node} {inner : List Node}
    (inside : InTextOrder (nodeAt? node.children) inner) :
    InTextOrder node.at? (node :: inner) := by
  obtain ⟨places, ordered, complete, listed⟩ := inside
  have chosen : [] ∉ places := fun mem => Bool.noConfusion ((complete []).mp mem)
  have same : ∀ place ∈ places, node.at? place = nodeAt? node.children place := by
    intro place mem
    cases place with
    | nil => exact absurd mem chosen
    | cons index place => rfl
  refine ⟨[] :: places, List.pairwise_cons.mpr ⟨fun place mem => ?_, ordered⟩, fun place => ?_, ?_⟩
  · cases place with
    | nil => exact absurd mem chosen
    | cons index place => exact List.nil_lt_cons _ _
  · cases place with
    | nil => exact iff_of_true List.mem_cons_self rfl
    | cons index place =>
        refine Iff.trans ?_ (complete (index :: place))
        exact List.mem_cons.trans (or_iff_right (List.cons_ne_nil _ _))
  · rw [List.map_cons, List.map_cons, listed]
    exact congrArg (some node :: ·) (List.map_congr_left fun place mem => (same place mem).symm)

/-! ## The nodes of a program -/

mutual
/-- A statement with the nodes inside it, in the order of the text. -/
def Statement.nodes : Statement → List Node
  | .bind name value => .statement (.bind name value) :: value.nodes
  | .ret value => .statement (.ret value) :: value.nodes
  | .evaluate value => .statement (.evaluate value) :: value.nodes
  | .group body => .statement (.group body) :: .block body :: statementNodes body

/-- Statements with the nodes inside them. -/
def statementNodes : List Statement → List Node
  | [] => []
  | first :: rest => first.nodes ++ statementNodes rest

/-- An expression with the nodes inside it. Names are not nodes. -/
def Expression.nodes : Expression → List Node
  | .identifier name => [.expression (.identifier name)]
  | .integer value => [.expression (.integer value)]
  | .string text => [.expression (.string text)]
  | .boolean value => [.expression (.boolean value)]
  | .unary operator operand => .expression (.unary operator operand) :: operand.nodes
  | .binary operator left right =>
    .expression (.binary operator left right) :: (left.nodes ++ right.nodes)
  | .conditional condition consequence none =>
    .expression (.conditional condition consequence none) ::
      (condition.nodes ++ .block consequence :: statementNodes consequence)
  | .conditional condition consequence (some alternative) =>
    .expression (.conditional condition consequence (some alternative)) ::
      (condition.nodes ++ .block consequence :: (statementNodes consequence ++
        .block alternative :: statementNodes alternative))
  | .function parameters body =>
    .expression (.function parameters body) :: .block body :: statementNodes body
  | .call callee arguments =>
    .expression (.call callee arguments) :: (callee.nodes ++ expressionNodes arguments)
  | .array elements => .expression (.array elements) :: expressionNodes elements
  | .index collection position =>
    .expression (.index collection position) :: (collection.nodes ++ position.nodes)
  | .hash pairs => .expression (.hash pairs) :: pairNodes pairs
  | .macroLiteral parameters body =>
    .expression (.macroLiteral parameters body) :: .block body :: statementNodes body

/-- Expressions with the nodes inside them. -/
def expressionNodes : List Expression → List Node
  | [] => []
  | first :: rest => first.nodes ++ expressionNodes rest

/-- Keys and values with the nodes inside them, each key before its value. -/
def pairNodes : List (Expression × Expression) → List Node
  | [] => []
  | (key, value) :: rest => key.nodes ++ (value.nodes ++ pairNodes rest)
end

/-- The nodes of a program, which is no block itself. -/
def Program.nodes (program : Program) : List Node :=
  statementNodes program

/-- A node with the nodes inside it. -/
def Node.nodes : Node → List Node
  | .statement first => first.nodes
  | .block body => .block body :: statementNodes body
  | .expression value => value.nodes

theorem statementNodes_eq (body : List Statement) :
    statementNodes body = (body.map Node.statement).flatMap Node.nodes := by
  induction body with
  | nil => rfl
  | cons first rest ih => exact congrArg (first.nodes ++ ·) ih

theorem expressionNodes_eq (list : List Expression) :
    expressionNodes list = (list.map Node.expression).flatMap Node.nodes := by
  induction list with
  | nil => rfl
  | cons first rest ih => exact congrArg (first.nodes ++ ·) ih

theorem pairNodes_eq (pairs : List (Expression × Expression)) :
    pairNodes pairs = ((pairParts pairs).map Part.node).flatMap Node.nodes := by
  induction pairs with
  | nil => rfl
  | cons first rest ih => exact congrArg (fun nodes => first.1.nodes ++ (first.2.nodes ++ nodes)) ih

/-- A node comes first, and after it come its children with the nodes inside them. -/
theorem Node.nodes_eq (node : Node) : node.nodes = node :: node.children.flatMap Node.nodes := by
  cases node with
  | statement first =>
      cases first <;> simp [nodes, Statement.nodes, children, Statement.part, Part.node]
  | block body => exact congrArg (Node.block body :: ·) (statementNodes_eq body)
  | expression value =>
      cases value with
      | conditional condition consequence alternative =>
          cases alternative <;>
            simp [nodes, Expression.nodes, children, Expression.parts, Part.node]
      | call callee arguments =>
          simp only [nodes, Expression.nodes, children, Expression.parts, expressionNodes_eq,
            List.map_cons, List.map_map, List.flatMap_cons]
          rfl
      | array elements =>
          simp only [nodes, Expression.nodes, children, Expression.parts, expressionNodes_eq,
            List.map_map]
          rfl
      | hash pairs =>
          simp only [nodes, Expression.nodes, children, Expression.parts, pairNodes_eq]
      | _ =>
          simp [nodes, Expression.nodes, children, Expression.parts, Part.node]

theorem inTextOrder_flatMap {trees : List Node}
    (inner : ∀ tree ∈ trees, InTextOrder tree.at? tree.nodes) :
    InTextOrder (nodeAt? trees) (trees.flatMap Node.nodes) := by
  induction trees with
  | nil => exact inTextOrder_nil
  | cons first rest ih =>
      obtain ⟨head, tail⟩ := List.forall_mem_cons.mp inner
      exact head.cons (ih tail)

theorem Node.inTextOrder_nodes (node : Node) : InTextOrder node.at? node.nodes := by
  induction node using Node.inherited with
  | inherits node inner =>
      rw [nodes_eq]
      exact (inTextOrder_flatMap inner).node

/-- **The nodes of a program are listed in the order of the text.** -/
theorem Program.inTextOrder_nodes (program : Program) :
    InTextOrder (nodeAt? (program.map .statement)) program.nodes := by
  rw [Program.nodes, statementNodes_eq]
  exact inTextOrder_flatMap fun tree _ => tree.inTextOrder_nodes

end MonkeyLang
