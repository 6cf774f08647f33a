import MonkeyLang.Operator

/-!
# Syntax trees

A program is a list of statements, and so is a block, the body of a branch or
of a callable.  A statement binds a name, returns a value, evaluates an
expression or groups statements.  Expressions and statements contain each
other, because functions, macros and conditionals are expressions that hold
blocks.

Trees are compared node by node; the comparison decides equality
(`Statement.beq_iff`, `Expression.beq_iff`).
-/

set_option autoImplicit false

namespace MonkeyLang

/-! ## Trees -/

mutual
/-- A statement. -/
inductive Statement where
  | bind (name : String) (value : Expression)
  | ret (value : Expression)
  | evaluate (expression : Expression)
  | group (body : List Statement)

/-- An expression. -/
inductive Expression where
  | identifier (name : String)
  | integer (value : Int64)
  | string (text : String)
  | boolean (value : Bool)
  | unary (operator : UnaryOperator) (operand : Expression)
  | binary (operator : BinaryOperator) (left right : Expression)
  | conditional (condition : Expression) (consequence : List Statement)
      (alternative : Option (List Statement))
  | function (parameters : List String) (body : List Statement)
  | call (callee : Expression) (arguments : List Expression)
  | array (elements : List Expression)
  | index (collection position : Expression)
  | hash (pairs : List (Expression × Expression))
  | macroLiteral (parameters : List String) (body : List Statement)
end

/-- The statements between two braces. -/
abbrev Block := List Statement

/-- The statements of a whole text. -/
abbrev Program := List Statement

/-- The arguments of an expression that calls the given name. -/
def Expression.argumentsOfCallTo? (name : String) : Expression → Option (List Expression)
  | .call (.identifier callee) arguments => if callee = name then some arguments else none
  | _ => none

/-! ## Equality of trees -/

mutual
/-- Whether two statements are the same tree. -/
def Statement.beq : Statement → Statement → Bool
  | .bind name value, .bind name' value' => name == name' && value.beq value'
  | .ret value, .ret value' => value.beq value'
  | .evaluate expression, .evaluate expression' => expression.beq expression'
  | .group body, .group body' => Statement.beqList body body'
  | _, _ => false

/-- Whether two blocks are the same tree. -/
def Statement.beqList : List Statement → List Statement → Bool
  | [], [] => true
  | head :: tail, head' :: tail' => head.beq head' && Statement.beqList tail tail'
  | _, _ => false

/-- Whether two expressions are the same tree. -/
def Expression.beq : Expression → Expression → Bool
  | .identifier name, .identifier name' => name == name'
  | .integer value, .integer value' => value == value'
  | .string text, .string text' => text == text'
  | .boolean value, .boolean value' => value == value'
  | .unary operator operand, .unary operator' operand' =>
    decide (operator = operator') && operand.beq operand'
  | .binary operator left right, .binary operator' left' right' =>
    decide (operator = operator') && (left.beq left' && right.beq right')
  | .conditional condition consequence none, .conditional condition' consequence' none =>
    condition.beq condition' && Statement.beqList consequence consequence'
  | .conditional condition consequence (some alternative),
      .conditional condition' consequence' (some alternative') =>
    condition.beq condition' && (Statement.beqList consequence consequence' &&
      Statement.beqList alternative alternative')
  | .function parameters body, .function parameters' body' =>
    parameters == parameters' && Statement.beqList body body'
  | .call callee arguments, .call callee' arguments' =>
    callee.beq callee' && Expression.beqList arguments arguments'
  | .array elements, .array elements' => Expression.beqList elements elements'
  | .index collection position, .index collection' position' =>
    collection.beq collection' && position.beq position'
  | .hash pairs, .hash pairs' => Expression.beqPairs pairs pairs'
  | .macroLiteral parameters body, .macroLiteral parameters' body' =>
    parameters == parameters' && Statement.beqList body body'
  | _, _ => false

/-- Whether two lists of expressions are the same trees in the same order. -/
def Expression.beqList : List Expression → List Expression → Bool
  | [], [] => true
  | head :: tail, head' :: tail' => head.beq head' && Expression.beqList tail tail'
  | _, _ => false

/-- Whether two lists of keys and values are the same trees in the same order. -/
def Expression.beqPairs : List (Expression × Expression) → List (Expression × Expression) → Bool
  | [], [] => true
  | (key, value) :: tail, (key', value') :: tail' =>
    key.beq key' && (value.beq value' && Expression.beqPairs tail tail')
  | _, _ => false
end

mutual
/-- The comparison of statements decides equality. -/
theorem Statement.beq_iff : ∀ left right : Statement, left.beq right = true ↔ left = right
  | .bind name value, right => by
    cases right <;> simp [Statement.beq, Expression.beq_iff value]
  | .ret value, right => by
    cases right <;> simp [Statement.beq, Expression.beq_iff value]
  | .evaluate expression, right => by
    cases right <;> simp [Statement.beq, Expression.beq_iff expression]
  | .group body, right => by
    cases right <;> simp [Statement.beq, Statement.beqList_iff body]

/-- The comparison of blocks decides equality. -/
theorem Statement.beqList_iff :
    ∀ left right : List Statement, Statement.beqList left right = true ↔ left = right
  | [], right => by cases right <;> simp [Statement.beqList]
  | head :: tail, right => by
    cases right <;>
      simp [Statement.beqList, Statement.beq_iff head, Statement.beqList_iff tail]

/-- The comparison of expressions decides equality. -/
theorem Expression.beq_iff : ∀ left right : Expression, left.beq right = true ↔ left = right
  | .identifier name, right => by cases right <;> simp [Expression.beq]
  | .integer value, right => by cases right <;> simp [Expression.beq]
  | .string text, right => by cases right <;> simp [Expression.beq]
  | .boolean value, right => by cases right <;> simp [Expression.beq]
  | .unary operator operand, right => by
    cases right <;> simp [Expression.beq, Expression.beq_iff operand]
  | .binary operator left₁ left₂, right => by
    cases right <;> simp [Expression.beq, Expression.beq_iff left₁, Expression.beq_iff left₂]
  | .conditional condition consequence none, right => by
    cases right with
    | conditional _ _ alternative =>
      cases alternative <;>
        simp [Expression.beq, Expression.beq_iff condition, Statement.beqList_iff consequence]
    | _ => simp [Expression.beq]
  | .conditional condition consequence (some alternative), right => by
    cases right with
    | conditional _ _ alternative' =>
      cases alternative' <;>
        simp [Expression.beq, Expression.beq_iff condition, Statement.beqList_iff consequence,
          Statement.beqList_iff alternative]
    | _ => simp [Expression.beq]
  | .function parameters body, right => by
    cases right <;> simp [Expression.beq, Statement.beqList_iff body]
  | .call callee arguments, right => by
    cases right <;>
      simp [Expression.beq, Expression.beq_iff callee, Expression.beqList_iff arguments]
  | .array elements, right => by
    cases right <;> simp [Expression.beq, Expression.beqList_iff elements]
  | .index collection position, right => by
    cases right <;>
      simp [Expression.beq, Expression.beq_iff collection, Expression.beq_iff position]
  | .hash pairs, right => by
    cases right <;> simp [Expression.beq, Expression.beqPairs_iff pairs]
  | .macroLiteral parameters body, right => by
    cases right <;> simp [Expression.beq, Statement.beqList_iff body]

/-- The comparison of lists of expressions decides equality. -/
theorem Expression.beqList_iff :
    ∀ left right : List Expression, Expression.beqList left right = true ↔ left = right
  | [], right => by cases right <;> simp [Expression.beqList]
  | head :: tail, right => by
    cases right <;>
      simp [Expression.beqList, Expression.beq_iff head, Expression.beqList_iff tail]

/-- The comparison of lists of keys and values decides equality. -/
theorem Expression.beqPairs_iff :
    ∀ left right : List (Expression × Expression),
      Expression.beqPairs left right = true ↔ left = right
  | [], right => by cases right <;> simp [Expression.beqPairs]
  | (key, value) :: tail, right => by
    cases right with
    | nil => simp [Expression.beqPairs]
    | cons head' _ =>
      obtain ⟨key', value'⟩ := head'
      simp [Expression.beqPairs, Expression.beq_iff key, Expression.beq_iff value,
        Expression.beqPairs_iff tail, and_assoc]
end

instance : DecidableEq Statement := fun left right =>
  decidable_of_iff (left.beq right = true) (Statement.beq_iff left right)

instance : DecidableEq Expression := fun left right =>
  decidable_of_iff (left.beq right = true) (Expression.beq_iff left right)

end MonkeyLang
