import MonkeyLang.Proofs.Parsing.Spelling
import MonkeyLang.Proofs.Rendering.Renderable
import MonkeyLang.Proofs.Scanning.Step
import MonkeyLang.Syntax.Rendering

/-!
# The tokens of rendered syntax

A tree has tokens of its own: those that its text is read as. They are given by
recursion on the tree, and the text of a renderable tree is scanned as exactly
these tokens, before any text that begins with no letter, digit or underscore
(`scanAll_render`). In particular the tokens of the text of a program are the
tokens of the program (`tokenize_render`).
-/

set_option autoImplicit false

namespace MonkeyLang

/-! ## Tokens of trees -/

/-- Names with commas between them. -/
def nameTokens : List String → List Token
  | [] => []
  | [name] => [⟨.identifier, name⟩]
  | name :: rest => ⟨.identifier, name⟩ :: .symbol .comma :: nameTokens rest

/-- The parameters of a callable in their parentheses. -/
def parameterTokens (names : List String) : List Token :=
  .symbol .leftParen :: (nameTokens names ++ [.symbol .rightParen])

/-- The numeral of a number. -/
def numeralToken (value : Nat) : Token :=
  ⟨.integer, String.ofList (Decimal.digits value)⟩

/-- A number, with a sign before a negative one. -/
def integerTokens (value : Int) : List Token :=
  if value < 0 then [.symbol .minus, numeralToken value.natAbs] else [numeralToken value.natAbs]

/-- Tokens in braces. -/
def bracedTokens (inside : List Token) : List Token :=
  .symbol .leftBrace :: (inside ++ [.symbol .rightBrace])

/-- What stands after a statement that another one follows. -/
def Statement.separatorTokens : Statement → List Token
  | .evaluate _ => [.symbol .semicolon]
  | _ => []

mutual
/-- The tokens of a statement. -/
def Statement.tokens : Statement → List Token
  | .bind name value =>
    ⟨.letWord, "let"⟩ :: ⟨.identifier, name⟩ :: .symbol .assign ::
      (value.tokens ++ [.symbol .semicolon])
  | .ret value => ⟨.returnWord, "return"⟩ :: (value.tokens ++ [.symbol .semicolon])
  | .evaluate expression => expression.tokens
  | .group body => bracedTokens (statementTokens body)

/-- The tokens of statements one after the other. -/
def statementTokens : List Statement → List Token
  | [] => []
  | [statement] => statement.tokens
  | statement :: rest => statement.tokens ++ (statement.separatorTokens ++ statementTokens rest)

/-- The tokens of an expression. -/
def Expression.tokens : Expression → List Token
  | .identifier name => [⟨.identifier, name⟩]
  | .integer value => integerTokens value.toInt
  | .string text => [⟨.string, text⟩]
  | .boolean true => [⟨.trueWord, "true"⟩]
  | .boolean false => [⟨.falseWord, "false"⟩]
  | .unary operator operand =>
    if operator = .negate ∧ operand.beginsWithDigit then
      .symbol .leftParen :: .symbol operator.kind :: .symbol .leftParen ::
        (operand.tokens ++ [.symbol .rightParen, .symbol .rightParen])
    else
      .symbol .leftParen :: .symbol operator.kind :: (operand.tokens ++ [.symbol .rightParen])
  | .binary operator left right =>
    .symbol .leftParen :: (left.tokens ++ .symbol operator.kind ::
      (right.tokens ++ [.symbol .rightParen]))
  | .conditional condition consequence none =>
    ⟨.ifWord, "if"⟩ :: (condition.tokens ++ bracedTokens (statementTokens consequence))
  | .conditional condition consequence (some alternative) =>
    ⟨.ifWord, "if"⟩ :: (condition.tokens ++ (bracedTokens (statementTokens consequence) ++
      ⟨.elseWord, "else"⟩ :: bracedTokens (statementTokens alternative)))
  | .function parameters body =>
    ⟨.functionWord, "fn"⟩ :: (parameterTokens parameters ++ bracedTokens (statementTokens body))
  | .call callee arguments =>
    callee.tokens ++ .symbol .leftParen :: (listTokens arguments ++ [.symbol .rightParen])
  | .array elements => .symbol .leftBracket :: (listTokens elements ++ [.symbol .rightBracket])
  | .index collection position =>
    .symbol .leftParen :: (collection.tokens ++ .symbol .leftBracket ::
      (position.tokens ++ [.symbol .rightBracket, .symbol .rightParen]))
  | .hash pairs => bracedTokens (pairTokens pairs)
  | .macroLiteral parameters body =>
    ⟨.macroWord, "macro"⟩ :: (parameterTokens parameters ++ bracedTokens (statementTokens body))

/-- Expressions with commas between them. -/
def listTokens : List Expression → List Token
  | [] => []
  | [expression] => expression.tokens
  | expression :: rest => expression.tokens ++ .symbol .comma :: listTokens rest

/-- Keys and values with commas between the pairs. -/
def pairTokens : List (Expression × Expression) → List Token
  | [] => []
  | [(key, value)] => key.tokens ++ .symbol .colon :: value.tokens
  | (key, value) :: rest =>
    key.tokens ++ .symbol .colon :: (value.tokens ++ .symbol .comma :: pairTokens rest)
end

/-- The tokens of a program. -/
def Program.tokens (program : Program) : List Token :=
  statementTokens program

/-! ## Scanning the pieces -/

@[simp]
theorem scanAll_space (rest : List Char) : scanAll (' ' :: rest) = scanAll rest :=
  scanAll_of_isBlank rfl rest

/-- The symbols that never take an equals sign in. -/
@[simp]
theorem scanAll_delimiter (rest : List Char) :
    scanAll ('(' :: rest) = .symbol .leftParen :: scanAll rest ∧
    scanAll (')' :: rest) = .symbol .rightParen :: scanAll rest ∧
    scanAll ('{' :: rest) = .symbol .leftBrace :: scanAll rest ∧
    scanAll ('}' :: rest) = .symbol .rightBrace :: scanAll rest ∧
    scanAll ('[' :: rest) = .symbol .leftBracket :: scanAll rest ∧
    scanAll (']' :: rest) = .symbol .rightBracket :: scanAll rest ∧
    scanAll (',' :: rest) = .symbol .comma :: scanAll rest ∧
    scanAll (':' :: rest) = .symbol .colon :: scanAll rest ∧
    scanAll (';' :: rest) = .symbol .semicolon :: scanAll rest := by
  refine ⟨?_, ?_, ?_, ?_, ?_, ?_, ?_, ?_, ?_⟩ <;> exact scanAll_of_symbolOf? rfl (.inl rfl)

@[simp]
theorem scanAll_assign (rest : List Char) :
    scanAll ('=' :: ' ' :: rest) = .symbol .assign :: scanAll rest := by
  rw [← scanAll_space rest]
  exact scanAll_of_symbolOf? rfl (.inr (by simp))

/-- What can follow a word in rendered text stands apart from it. -/
@[simp]
theorem apart_delimiter (rest : List Char) :
    Apart (' ' :: rest) ∧ Apart ('(' :: rest) ∧ Apart (')' :: rest) ∧ Apart ('[' :: rest) ∧
    Apart (']' :: rest) ∧ Apart ('}' :: rest) ∧ Apart (',' :: rest) ∧ Apart (':' :: rest) ∧
    Apart (';' :: rest) :=
  ⟨rfl, rfl, rfl, rfl, rfl, rfl, rfl, rfl, rfl⟩

/-- An operator before a space, which keeps it from taking an equals sign in. -/
@[simp]
theorem scanAll_binaryOperator (operator : BinaryOperator) (rest : List Char) :
    scanAll (operator.symbol.toList ++ ' ' :: rest) = .symbol operator.kind :: scanAll rest := by
  rw [← scanAll_space rest]
  cases operator with
  | equal => exact scanAll_of_symbolWithEqual? rfl _
  | notEqual => exact scanAll_of_symbolWithEqual? rfl _
  | _ => exact scanAll_of_symbolOf? rfl (.inl rfl)

/-- Whatever stands after `!` must not begin with an equals sign. -/
theorem scanAll_unaryOperator (operator : UnaryOperator) {rest : List Char}
    (other : rest.head? ≠ some '=') :
    scanAll (operator.symbol.toList ++ rest) = .symbol operator.kind :: scanAll rest := by
  cases operator <;> exact scanAll_of_symbolOf? rfl (.inr other)

/-- The keywords, letter by letter. -/
@[simp]
theorem scanAll_keyword {rest : List Char} (apart : Apart rest) :
    scanAll ('l' :: 'e' :: 't' :: rest) = ⟨.letWord, "let"⟩ :: scanAll rest ∧
    scanAll ('r' :: 'e' :: 't' :: 'u' :: 'r' :: 'n' :: rest) =
      ⟨.returnWord, "return"⟩ :: scanAll rest ∧
    scanAll ('t' :: 'r' :: 'u' :: 'e' :: rest) = ⟨.trueWord, "true"⟩ :: scanAll rest ∧
    scanAll ('f' :: 'a' :: 'l' :: 's' :: 'e' :: rest) = ⟨.falseWord, "false"⟩ :: scanAll rest ∧
    scanAll ('i' :: 'f' :: rest) = ⟨.ifWord, "if"⟩ :: scanAll rest ∧
    scanAll ('e' :: 'l' :: 's' :: 'e' :: rest) = ⟨.elseWord, "else"⟩ :: scanAll rest ∧
    scanAll ('f' :: 'n' :: rest) = ⟨.functionWord, "fn"⟩ :: scanAll rest ∧
    scanAll ('m' :: 'a' :: 'c' :: 'r' :: 'o' :: rest) = ⟨.macroWord, "macro"⟩ :: scanAll rest :=
  ⟨@scanAll_of_mem_keywords "let" _ (by decide) _ apart,
    @scanAll_of_mem_keywords "return" _ (by decide) _ apart,
    @scanAll_of_mem_keywords "true" _ (by decide) _ apart,
    @scanAll_of_mem_keywords "false" _ (by decide) _ apart,
    @scanAll_of_mem_keywords "if" _ (by decide) _ apart,
    @scanAll_of_mem_keywords "else" _ (by decide) _ apart,
    @scanAll_of_mem_keywords "fn" _ (by decide) _ apart,
    @scanAll_of_mem_keywords "macro" _ (by decide) _ apart⟩

theorem scanAll_digits (value : Nat) {rest : List Char} (apart : Apart rest) :
    scanAll (Decimal.digits value ++ rest) = numeralToken value :: scanAll rest :=
  scanAll_number (Decimal.digits_ne_nil value)
    (List.all_eq_true.mp (Decimal.all_isDigit_digits value)) apart

theorem scanAll_integer (value : Int) {rest : List Char} (apart : Apart rest) :
    scanAll ((Decimal.write value).toList ++ rest) = integerTokens value ++ scanAll rest := by
  have digits := scanAll_digits value.natAbs apart
  rw [Decimal.write, integerTokens]
  split
  · have sign : ∀ text, scanAll ('-' :: text) = .symbol .minus :: scanAll text :=
      fun _ => scanAll_of_symbolOf? rfl (.inl rfl)
    simp [sign, digits]
  · simp [digits]

/-- Names with commas between them. -/
theorem scanAll_names : ∀ {names : List String}, (∀ name ∈ names, IsName name) →
    ∀ {rest : List Char}, Apart rest →
      scanAll ((commaSeparated names).toList ++ rest) = nameTokens names ++ scanAll rest
  | [], _, _, _ => rfl
  | [name], areNames, _, apart => scanAll_of_isName (areNames name List.mem_cons_self) apart
  | name :: second :: names, areNames, rest, apart => by
    have isName := areNames name List.mem_cons_self
    have others := scanAll_names (fun name mem => areNames name (List.mem_cons_of_mem _ mem)) apart
    simp [commaSeparated, nameTokens, scanAll_of_isName isName, others]

theorem scanAll_parameters {names : List String} (areNames : ∀ name ∈ names, IsName name)
    (rest : List Char) :
    scanAll ((renderParameters names).toList ++ rest) =
      parameterTokens names ++ scanAll rest := by
  simp [renderParameters, parameterTokens, scanAll_names areNames]

theorem apart_renderParameters (names : List String) (rest : List Char) :
    Apart ((renderParameters names).toList ++ rest) := by
  simp [renderParameters]

theorem scanAll_braced {body : List Statement}
    (inside : ∀ {rest : List Char}, Apart rest →
      scanAll ((renderStatements body).toList ++ rest) = statementTokens body ++ scanAll rest)
    (rest : List Char) :
    scanAll ((braced body (renderStatements body)).toList ++ rest) =
      bracedTokens (statementTokens body) ++ scanAll rest := by
  cases body with
  | nil => simp [braced, bracedTokens, statementTokens]
  | cons first body => simp [braced, bracedTokens, inside]

/-! ## Scanning trees -/

/-- The text of an expression never begins with an equals sign. -/
theorem Expression.render_head_ne : ∀ {expression : Expression}, expression.Renderable →
    ∀ rest : List Char, (expression.render.toList ++ rest).head? ≠ some '='
  | .identifier name, renderable, rest => by
    intro equal
    obtain ⟨start, -, -⟩ := renderable
    rw [Expression.render] at equal
    cases whole : name.toList with
    | nil =>
        rw [whole] at start
        cases start
    | cons first word =>
        rw [whole] at start equal
        cases equal
        cases start
  | .integer value, _, rest => by
    rw [Expression.render, Decimal.write]
    split
    · simp [String.toList_append]
    · rw [String.toList_ofList]
      intro equal
      have digits := Decimal.all_isDigit_digits value.toInt.natAbs
      cases whole : Decimal.digits value.toInt.natAbs with
      | nil => exact Decimal.digits_ne_nil _ whole
      | cons first others =>
          rw [whole] at digits equal
          cases equal
          cases digits
  | .call callee arguments, renderable, rest => by
    rw [Expression.render, String.toList_append, String.toList_append, String.toList_append,
      List.append_assoc, List.append_assoc, List.append_assoc]
    exact Expression.render_head_ne renderable.1 _
  | .unary operator operand, _, rest => by
    rw [Expression.render]
    split <;> simp [String.toList_append]
  | .boolean true, _, rest => by simp [Expression.render]
  | .boolean false, _, rest => by simp [Expression.render]
  | .conditional condition consequence none, _, rest => by
    simp [Expression.render, String.toList_append]
  | .conditional condition consequence (some alternative), _, rest => by
    simp [Expression.render, String.toList_append]
  | .string _, _, rest | .binary _ _ _, _, rest | .function _ _, _, rest | .array _, _, rest
  | .index _ _, _, rest | .hash _, _, rest | .macroLiteral _ _, _, rest => by
    simp [Expression.render, renderParameters, String.toList_append]

mutual
/-- The text of a statement is scanned as the tokens of the statement. -/
theorem Statement.scanAll_render : ∀ {statement : Statement}, statement.Renderable →
    ∀ {rest : List Char}, Apart rest →
      scanAll (statement.render.toList ++ rest) = statement.tokens ++ scanAll rest
  | .bind name value, renderable, rest, apart => by
    simp [Statement.render, Statement.tokens, scanAll_of_isName renderable.1,
      Expression.scanAll_render renderable.2]
  | .ret value, renderable, rest, apart => by
    simp [Statement.render, Statement.tokens, value.scanAll_render renderable]
  | .evaluate expression, renderable, rest, apart => expression.scanAll_render renderable apart
  | .group body, renderable, _, _ => renderable.elim

/-- The text of statements is scanned as the tokens of the statements. -/
theorem scanAll_renderStatements : ∀ {body : List Statement}, StatementsRenderable body →
    ∀ {rest : List Char}, Apart rest →
      scanAll ((renderStatements body).toList ++ rest) = statementTokens body ++ scanAll rest
  | [], _, _, _ => rfl
  | [statement], renderable, _, apart => statement.scanAll_render renderable.1 apart
  | first :: second :: body, renderable, rest, apart => by
    have others := scanAll_renderStatements renderable.2 apart
    cases first <;>
      simp [renderStatements, statementTokens, Statement.separator, Statement.separatorTokens,
        Statement.scanAll_render renderable.1, others]

/-- The text of an expression is scanned as the tokens of the expression. -/
theorem Expression.scanAll_render : ∀ {expression : Expression}, expression.Renderable →
    ∀ {rest : List Char}, Apart rest →
      scanAll (expression.render.toList ++ rest) = expression.tokens ++ scanAll rest
  | .identifier name, renderable, rest, apart => scanAll_of_isName renderable apart
  | .integer value, _, rest, apart => scanAll_integer _ apart
  | .string text, renderable, rest, apart => by
    simp [Expression.render, Expression.tokens, scanAll_string renderable]
  | .boolean true, _, rest, apart => (scanAll_keyword apart).2.2.1
  | .boolean false, _, rest, apart => (scanAll_keyword apart).2.2.2.1
  | .unary operator operand, renderable, rest, apart => by
    have inner : operand.Renderable := renderable
    have opening : ∀ text, scanAll (operator.symbol.toList ++ '(' :: text) =
        .symbol operator.kind :: scanAll ('(' :: text) :=
      fun text => scanAll_unaryOperator operator (by simp)
    rw [Expression.render, Expression.tokens]
    split
    · simp [opening, operand.scanAll_render inner]
    · simp [scanAll_unaryOperator operator (Expression.render_head_ne inner _),
        operand.scanAll_render inner]
  | .binary operator left right, renderable, rest, apart => by
    simp [Expression.render, Expression.tokens, left.scanAll_render renderable.1,
      right.scanAll_render renderable.2]
  | .conditional condition consequence none, renderable, rest, apart => by
    simp [Expression.render, Expression.tokens, condition.scanAll_render renderable.1,
      scanAll_braced (scanAll_renderStatements renderable.2)]
  | .conditional condition consequence (some alternative), renderable, rest, apart => by
    simp [Expression.render, Expression.tokens, condition.scanAll_render renderable.1,
      scanAll_braced (scanAll_renderStatements renderable.2.1),
      scanAll_braced (scanAll_renderStatements renderable.2.2)]
  | .function parameters body, renderable, rest, apart => by
    simp [Expression.render, Expression.tokens, apart_renderParameters,
      scanAll_parameters renderable.1, scanAll_braced (scanAll_renderStatements renderable.2)]
  | .call callee arguments, renderable, rest, apart => by
    simp [Expression.render, Expression.tokens, callee.scanAll_render renderable.1,
      scanAll_renderExpressions renderable.2]
  | .array elements, renderable, rest, apart => by
    have inner : ExpressionsRenderable elements := renderable
    simp [Expression.render, Expression.tokens, scanAll_renderExpressions inner]
  | .index collection position, renderable, rest, apart => by
    simp [Expression.render, Expression.tokens, collection.scanAll_render renderable.1,
      position.scanAll_render renderable.2]
  | .hash pairs, renderable, rest, apart => by
    have inner : PairsRenderable pairs := renderable
    simp [Expression.render, Expression.tokens, bracedTokens, scanAll_renderPairs inner]
  | .macroLiteral parameters body, renderable, rest, apart => by
    simp [Expression.render, Expression.tokens, apart_renderParameters,
      scanAll_parameters renderable.1, scanAll_braced (scanAll_renderStatements renderable.2)]

/-- The text of expressions is scanned as the tokens of the expressions. -/
theorem scanAll_renderExpressions : ∀ {list : List Expression}, ExpressionsRenderable list →
    ∀ {rest : List Char}, Apart rest →
      scanAll ((commaSeparated (renderExpressions list)).toList ++ rest) =
        listTokens list ++ scanAll rest
  | [], _, _, _ => rfl
  | [expression], renderable, _, apart => expression.scanAll_render renderable.1 apart
  | first :: second :: list, renderable, rest, apart => by
    have others := scanAll_renderExpressions renderable.2 apart
    rw [renderExpressions] at others
    simp [renderExpressions, commaSeparated, listTokens, first.scanAll_render renderable.1, others]

/-- The text of pairs is scanned as the tokens of the pairs. -/
theorem scanAll_renderPairs : ∀ {list : List (Expression × Expression)}, PairsRenderable list →
    ∀ {rest : List Char}, Apart rest →
      scanAll ((commaSeparated (renderPairs list)).toList ++ rest) =
        pairTokens list ++ scanAll rest
  | [], _, _, _ => rfl
  | [(key, value)], renderable, _, apart => by
    simp [renderPairs, commaSeparated, pairTokens, key.scanAll_render renderable.1.1,
      value.scanAll_render renderable.1.2 apart]
  | (key, value) :: (key', value') :: list, renderable, rest, apart => by
    have others := scanAll_renderPairs renderable.2 apart
    rw [renderPairs] at others
    simp [renderPairs, commaSeparated, pairTokens, key.scanAll_render renderable.1.1,
      value.scanAll_render renderable.1.2, others]
end

/-- The tokens of the text of a renderable program are the tokens of the program. -/
theorem tokenize_render {program : Program} (renderable : program.Renderable) :
    tokenize program.render = program.tokens := by
  have nothing : scanAll [] = [] := scanAll_eq_nil rfl
  have scanned := @scanAll_renderStatements program renderable [] trivial
  rwa [nothing, List.append_nil, List.append_nil] at scanned

end MonkeyLang
