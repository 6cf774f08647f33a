import MonkeyLang.Store

/-!
# Macros that are templates

A template is a macro whose body is one quote, in which `unquote` is only ever
called on a parameter. Such a macro can be understood without evaluation: a call
stands for the quoted syntax with the arguments put in for the parameters, all
at once and as they are. This module says so on syntax alone. The rewriting of a
program by templates is given by recursion on the program, and it may fail, at a
call with the wrong number of arguments.
-/

set_option autoImplicit false

namespace MonkeyLang

/-! ## Holes -/

/-- The name in a call `unquote(name)`. -/
def Expression.hole? (expression : Expression) : Option String :=
  match expression.argumentsOfCallTo? "unquote" with
  | some [argument] =>
    match argument with
    | .identifier name => some name
    | _ => none
  | _ => none

mutual
/-- In a statement `unquote` is called on one argument only if that is one of the names. -/
def Statement.HolesIn (names : List String) : Statement → Prop
  | .bind _ value => value.HolesIn names
  | .ret value => value.HolesIn names
  | .evaluate expression => expression.HolesIn names
  | .group body => StatementsHolesIn names body

/-- In statements `unquote` is called on one argument only if that is one of the names. -/
def StatementsHolesIn (names : List String) : List Statement → Prop
  | [] => True
  | first :: rest => first.HolesIn names ∧ StatementsHolesIn names rest

/-- In an expression `unquote` is called on one argument only if that is one of the names. -/
def Expression.HolesIn (names : List String) : Expression → Prop
  | .identifier _ | .integer _ | .string _ | .boolean _ => True
  | .unary _ operand => operand.HolesIn names
  | .binary _ left right => left.HolesIn names ∧ right.HolesIn names
  | .conditional condition consequence none =>
    condition.HolesIn names ∧ StatementsHolesIn names consequence
  | .conditional condition consequence (some alternative) =>
    condition.HolesIn names ∧ StatementsHolesIn names consequence ∧
      StatementsHolesIn names alternative
  | .function _ body => StatementsHolesIn names body
  | .call callee arguments =>
    match (Expression.call callee arguments).argumentsOfCallTo? "unquote" with
    | some [argument] => ∃ name ∈ names, argument = .identifier name
    | _ => callee.HolesIn names ∧ ListHolesIn names arguments
  | .array elements => ListHolesIn names elements
  | .index collection position => collection.HolesIn names ∧ position.HolesIn names
  | .hash pairs => PairsHolesIn names pairs
  | .macroLiteral _ body => StatementsHolesIn names body

/-- In expressions `unquote` is called on one argument only if that is one of the names. -/
def ListHolesIn (names : List String) : List Expression → Prop
  | [] => True
  | first :: rest => first.HolesIn names ∧ ListHolesIn names rest

/-- In pairs `unquote` is called on one argument only if that is one of the names. -/
def PairsHolesIn (names : List String) : List (Expression × Expression) → Prop
  | [] => True
  | (key, value) :: rest => key.HolesIn names ∧ value.HolesIn names ∧ PairsHolesIn names rest
end

/-- What is put in for a name. -/
abbrev Filling := String → Option Expression

mutual
/-- A statement with its holes filled. -/
def Statement.fill (filling : Filling) : Statement → Statement
  | .bind name value => .bind name (value.fill filling)
  | .ret value => .ret (value.fill filling)
  | .evaluate expression => .evaluate (expression.fill filling)
  | .group body => .group (fillStatements filling body)

/-- Statements with their holes filled. -/
def fillStatements (filling : Filling) : List Statement → List Statement
  | [] => []
  | first :: rest => first.fill filling :: fillStatements filling rest

/-- An expression with its holes filled; what is put in is not searched for holes. -/
def Expression.fill (filling : Filling) : Expression → Expression
  | .identifier name => .identifier name
  | .integer value => .integer value
  | .string text => .string text
  | .boolean value => .boolean value
  | .unary operator operand => .unary operator (operand.fill filling)
  | .binary operator left right => .binary operator (left.fill filling) (right.fill filling)
  | .conditional condition consequence none =>
    .conditional (condition.fill filling) (fillStatements filling consequence) none
  | .conditional condition consequence (some alternative) =>
    .conditional (condition.fill filling) (fillStatements filling consequence)
      (some (fillStatements filling alternative))
  | .function parameters body => .function parameters (fillStatements filling body)
  | .call callee arguments =>
    match (Expression.call callee arguments).hole?.bind filling with
    | some argument => argument
    | none => .call (callee.fill filling) (fillList filling arguments)
  | .array elements => .array (fillList filling elements)
  | .index collection position => .index (collection.fill filling) (position.fill filling)
  | .hash pairs => .hash (fillPairs filling pairs)
  | .macroLiteral parameters body => .macroLiteral parameters (fillStatements filling body)

/-- Expressions with their holes filled. -/
def fillList (filling : Filling) : List Expression → List Expression
  | [] => []
  | first :: rest => first.fill filling :: fillList filling rest

/-- Pairs with their holes filled. -/
def fillPairs (filling : Filling) : List (Expression × Expression) → List (Expression × Expression)
  | [] => []
  | (key, value) :: rest => (key.fill filling, value.fill filling) :: fillPairs filling rest
end

/-! ## Templates -/

/-- What a macro of this kind consists of. -/
structure Template where
  parameters : List String
  quoted : Expression

namespace Template

/-- The template that a closure is, if its body is one quote. -/
def ofClosure? (closure : Closure) : Option Template :=
  match closure.body with
  | [.evaluate (.call (.identifier "quote") [quoted])] => some ⟨closure.parameters, quoted⟩
  | _ => none

/-- The quoted syntax with the arguments put in for the parameters. -/
def instantiate (template : Template) (arguments : List Expression) : Expression :=
  template.quoted.fill fun name => (template.parameters.zip arguments).lookup name

end Template

/-- The closure is a template with the quoted syntax: its body is the quote, its parameters are
different names, they are the only arguments of `unquote`, and the word `quote` means quoting in
its body. -/
structure Closure.IsTemplate (closure : Closure) (quoted : Expression) (store : Store) : Prop where
  body : closure.body = [.evaluate (.call (.identifier "quote") [quoted])]
  distinct : closure.parameters.Nodup
  holes : quoted.HolesIn closure.parameters
  unnamed : "quote" ∉ closure.parameters
  /-- The frame that the body sees was opened, and it sees no binding of `quote`. -/
  opened : closure.frame < store.size
  unbound : store.lookup? closure.frame "quote" = none

theorem Closure.IsTemplate.ofClosure?_eq {closure : Closure} {quoted : Expression} {store : Store}
    (template : closure.IsTemplate quoted store) :
    Template.ofClosure? closure = some ⟨closure.parameters, quoted⟩ := by
  rw [Template.ofClosure?, template.body]
  rfl

/-- The frame was opened, and every macro it sees is a template. -/
structure Store.OnlyTemplates (store : Store) (macros : FrameId) : Prop where
  opened : macros < store.size
  isTemplate : ∀ name closure, store.lookup? macros name = some (.macroValue closure) →
    ∃ quoted, closure.IsTemplate quoted store

/-- The templates that names stand for. -/
abbrev Templates := String → Option Template

/-- The templates among the macros that a frame sees. -/
def Store.templates (store : Store) (macros : FrameId) : Templates := fun name =>
  match store.lookup? macros name with
  | some (.macroValue closure) => Template.ofClosure? closure
  | _ => none

/-! ## Rewriting by templates -/

namespace Templates

/-- The template that a callee names. -/
def named? (templates : Templates) : Expression → Option Template
  | .identifier name => templates name
  | _ => none

/-- What becomes of a call whose callee and arguments are rewritten. -/
def rewriteCall (templates : Templates) (callee : Expression) (arguments : List Expression) :
    Except RuntimeError Expression :=
  match templates.named? callee with
  | none => return .call callee arguments
  | some template =>
    if template.parameters.length = arguments.length then
      return template.instantiate arguments
    else
      throw (.arity template.parameters.length arguments.length)

mutual
/-- A statement with the calls of templates rewritten, from the inside out and from left to
right. -/
def rewriteStatement (templates : Templates) : Statement → Except RuntimeError Statement
  | .bind name value => do
      return .bind name (← templates.rewrite value)
  | .ret value => do
      return .ret (← templates.rewrite value)
  | .evaluate expression => do
      return .evaluate (← templates.rewrite expression)
  | .group body => do
      return .group (← templates.rewriteStatements body)

/-- Statements with the calls of templates rewritten. -/
def rewriteStatements (templates : Templates) :
    List Statement → Except RuntimeError (List Statement)
  | [] => return []
  | first :: rest => do
      let first ← templates.rewriteStatement first
      return first :: (← templates.rewriteStatements rest)

/-- An expression with the calls of templates rewritten. -/
def rewrite (templates : Templates) : Expression → Except RuntimeError Expression
  | .identifier name => return .identifier name
  | .integer value => return .integer value
  | .string text => return .string text
  | .boolean value => return .boolean value
  | .unary operator operand => do
      return .unary operator (← templates.rewrite operand)
  | .binary operator left right => do
      let left ← templates.rewrite left
      return .binary operator left (← templates.rewrite right)
  | .conditional condition consequence none => do
      let condition ← templates.rewrite condition
      return .conditional condition (← templates.rewriteStatements consequence) none
  | .conditional condition consequence (some alternative) => do
      let condition ← templates.rewrite condition
      let consequence ← templates.rewriteStatements consequence
      return .conditional condition consequence (some (← templates.rewriteStatements alternative))
  | .function parameters body => do
      return .function parameters (← templates.rewriteStatements body)
  | .call callee arguments => do
      let callee ← templates.rewrite callee
      let arguments ← templates.rewriteList arguments
      templates.rewriteCall callee arguments
  | .array elements => do
      return .array (← templates.rewriteList elements)
  | .index collection position => do
      let collection ← templates.rewrite collection
      return .index collection (← templates.rewrite position)
  | .hash pairs => do
      return .hash (← templates.rewritePairs pairs)
  | .macroLiteral parameters body => do
      return .macroLiteral parameters (← templates.rewriteStatements body)

/-- Expressions with the calls of templates rewritten. -/
def rewriteList (templates : Templates) : List Expression → Except RuntimeError (List Expression)
  | [] => return []
  | first :: rest => do
      let first ← templates.rewrite first
      return first :: (← templates.rewriteList rest)

/-- Pairs with the calls of templates rewritten, each key before its value. -/
def rewritePairs (templates : Templates) :
    List (Expression × Expression) → Except RuntimeError (List (Expression × Expression))
  | [] => return []
  | (key, value) :: rest => do
      let key ← templates.rewrite key
      let value ← templates.rewrite value
      return (key, value) :: (← templates.rewritePairs rest)
end

end Templates

end MonkeyLang
