import MonkeyLang.Syntax
import MonkeyLang.Token.Scanning

/-!
# Syntax that can be written down

Trees can hold more than text can say: names that are no words, strings with
quotes in them, and statements grouped into a block of their own, for which the
grammar has no form. A tree without these is renderable.
-/

set_option autoImplicit false

namespace MonkeyLang

/-- A word of letters, digits and underscores that begins with no digit and is no keyword. -/
def IsName (name : String) : Prop :=
  name.toList.head?.any isWordStart = true ∧ name.toList.all isWordPart = true ∧
    TokenKind.ofWord name = .identifier

instance (name : String) : Decidable (IsName name) :=
  inferInstanceAs (Decidable (_ ∧ _ ∧ _))

mutual
/-- A statement that text can say. -/
def Statement.Renderable : Statement → Prop
  | .bind name value => IsName name ∧ value.Renderable
  | .ret value => value.Renderable
  | .evaluate expression => expression.Renderable
  | .group _ => False

/-- Statements that text can say. -/
def StatementsRenderable : List Statement → Prop
  | [] => True
  | first :: rest => first.Renderable ∧ StatementsRenderable rest

/-- An expression that text can say. -/
def Expression.Renderable : Expression → Prop
  | .identifier name => IsName name
  | .integer _ => True
  | .string text => '"' ∉ text.toList
  | .boolean _ => True
  | .unary _ operand => operand.Renderable
  | .binary _ left right => left.Renderable ∧ right.Renderable
  | .conditional condition consequence none =>
    condition.Renderable ∧ StatementsRenderable consequence
  | .conditional condition consequence (some alternative) =>
    condition.Renderable ∧ StatementsRenderable consequence ∧ StatementsRenderable alternative
  | .function parameters body => (∀ name ∈ parameters, IsName name) ∧ StatementsRenderable body
  | .call callee arguments => callee.Renderable ∧ ExpressionsRenderable arguments
  | .array elements => ExpressionsRenderable elements
  | .index collection position => collection.Renderable ∧ position.Renderable
  | .hash pairs => PairsRenderable pairs
  | .macroLiteral parameters body =>
    (∀ name ∈ parameters, IsName name) ∧ StatementsRenderable body

/-- Expressions that text can say. -/
def ExpressionsRenderable : List Expression → Prop
  | [] => True
  | first :: rest => first.Renderable ∧ ExpressionsRenderable rest

/-- Pairs of expressions that text can say. -/
def PairsRenderable : List (Expression × Expression) → Prop
  | [] => True
  | (key, value) :: rest => (key.Renderable ∧ value.Renderable) ∧ PairsRenderable rest
end

/-- Statements are renderable one by one. -/
theorem statementsRenderable_iff {body : List Statement} :
    StatementsRenderable body ↔ ∀ statement ∈ body, statement.Renderable := by
  induction body with
  | nil => simp [StatementsRenderable]
  | cons first rest ih => rw [StatementsRenderable, List.forall_mem_cons, ih]

/-- A program that text can say. -/
def Program.Renderable (program : Program) : Prop :=
  StatementsRenderable program

end MonkeyLang
