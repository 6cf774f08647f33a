import MonkeyLang.Decimal
import MonkeyLang.Syntax

/-!
# Syntax as text

A tree is rendered as text that reads back as the same tree.  Every operator
form is enclosed in parentheses, strings stand in quotes, and an expression
statement ends in a semicolon when another statement follows it, so that the
next one cannot be read as a call or an index on it.  A minus sign before text
that begins with a digit would be read as part of the number; such an operand
gets parentheses of its own.
-/

set_option autoImplicit false

namespace MonkeyLang

/-! ## Lists of texts -/

/-- Texts one after the other, separated by commas. -/
def commaSeparated : List String → String
  | [] => ""
  | [text] => text
  | text :: rest => text ++ ", " ++ commaSeparated rest

/-- A list of names in parentheses, as it stands before a body. -/
def renderParameters (names : List String) : String :=
  "(" ++ commaSeparated names ++ ")"

/-! ## Trees -/

/-- Whether the text of an expression begins with a digit. -/
def Expression.beginsWithDigit : Expression → Bool
  | .integer value => decide (0 ≤ value)
  | .call callee _ => callee.beginsWithDigit
  | _ => false

/-- What stands after a statement that another one follows. -/
def Statement.separator : Statement → String
  | .evaluate _ => "; "
  | _ => " "

/-- A block between braces, given the text of its statements. -/
def braced : Block → String → String
  | [], _ => "\x7b \x7d"
  | _ :: _, text => "\x7b " ++ text ++ " \x7d"

mutual
/-- The text of a statement. -/
def Statement.render : Statement → String
  | .bind name value => "let " ++ name ++ " = " ++ value.render ++ ";"
  | .ret value => "return " ++ value.render ++ ";"
  | .evaluate expression => expression.render
  | .group body => braced body (renderStatements body)

/-- The text of statements one after the other. -/
def renderStatements : List Statement → String
  | [] => ""
  | [statement] => statement.render
  | statement :: rest => statement.render ++ statement.separator ++ renderStatements rest

/-- The text of an expression. -/
def Expression.render : Expression → String
  | .identifier name => name
  | .integer value => Decimal.write value.toInt
  | .string text => "\"" ++ text ++ "\""
  | .boolean true => "true"
  | .boolean false => "false"
  | .unary operator operand =>
    if operator = .negate ∧ operand.beginsWithDigit then
      "(" ++ operator.symbol ++ "(" ++ operand.render ++ "))"
    else
      "(" ++ operator.symbol ++ operand.render ++ ")"
  | .binary operator left right =>
    "(" ++ left.render ++ " " ++ operator.symbol ++ " " ++ right.render ++ ")"
  | .conditional condition consequence none =>
    "if " ++ condition.render ++ " " ++ braced consequence (renderStatements consequence)
  | .conditional condition consequence (some alternative) =>
    "if " ++ condition.render ++ " " ++ braced consequence (renderStatements consequence) ++
      " else " ++ braced alternative (renderStatements alternative)
  | .function parameters body =>
    "fn" ++ renderParameters parameters ++ " " ++ braced body (renderStatements body)
  | .call callee arguments =>
    callee.render ++ "(" ++ commaSeparated (renderExpressions arguments) ++ ")"
  | .array elements => "[" ++ commaSeparated (renderExpressions elements) ++ "]"
  | .index collection position => "(" ++ collection.render ++ "[" ++ position.render ++ "])"
  | .hash pairs => "\x7b" ++ commaSeparated (renderPairs pairs) ++ "\x7d"
  | .macroLiteral parameters body =>
    "macro" ++ renderParameters parameters ++ " " ++ braced body (renderStatements body)

/-- The text of each expression of a list. -/
def renderExpressions : List Expression → List String
  | [] => []
  | expression :: rest => expression.render :: renderExpressions rest

/-- The text of each pair of a key and a value. -/
def renderPairs : List (Expression × Expression) → List String
  | [] => []
  | (key, value) :: rest => (key.render ++ ": " ++ value.render) :: renderPairs rest
end

/-- The text of a block. -/
def Block.render (body : Block) : String :=
  braced body (renderStatements body)

/-- The text of a program. -/
def Program.render (program : Program) : String :=
  renderStatements program

end MonkeyLang
