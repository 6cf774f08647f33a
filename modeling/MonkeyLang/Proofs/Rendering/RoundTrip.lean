import MonkeyLang.Parsing
import MonkeyLang.Proofs.Parsing.Completeness
import MonkeyLang.Proofs.Parsing.Renderability
import MonkeyLang.Proofs.Rendering.Tokens

/-!
# Rendered text is read back

The tokens of a renderable tree are one of the spellings of the tree, so the
parser, which is complete for the grammar, reads them as that tree. What the
parser gives is renderable whatever it was read from, so it can be rendered and
read back, also when much of the text was malformed.
-/

set_option autoImplicit false

namespace MonkeyLang

/-! ## The tokens of a tree spell it -/

/-- The tokens of a number spell it. -/
theorem spelling_integerTokens (value : Int64) :
    Spelling (.expression .tight (.integer value)) (integerTokens value.toInt) := by
  have least := value.le_toInt
  have most := value.toInt_lt
  have numeral : Decimal.natural? (numeralToken value.toInt.natAbs).literal.toList =
      some value.toInt.natAbs := by
    rw [numeralToken, String.toList_ofList, Decimal.natural?_digits]
  rw [integerTokens]
  split
  · have same : Int64.ofInt (-(value.toInt.natAbs : Int)) = value := by
      rw [show -(value.toInt.natAbs : Int) = value.toInt by omega, Int64.ofInt_toInt]
    have spelling := @Spelling.negative _ (TokenKind.minus.name) _ numeral (by omega)
    rwa [same] at spelling
  · have same : Int64.ofNat value.toInt.natAbs = value := by
      rw [← Int64.ofInt_eq_ofNat, show (value.toInt.natAbs : Int) = value.toInt by omega,
        Int64.ofInt_toInt]
    have spelling := Spelling.integer numeral (by omega)
    rwa [same] at spelling

theorem spelling_nameTokens : ∀ names : List String, Spelling (.names names) (nameTokens names)
  | [] => .noNames
  | [name] => .oneName name
  | _ :: second :: names => .moreNames (spelling_nameTokens (second :: names))

/-- The tokens of an expression begin with a numeral only if its text begins with a digit. -/
theorem Expression.kind_tokens_ne :
    ∀ {expression : Expression}, expression.beginsWithDigit = false →
      ∀ rest : List Token, Cursor.kind (expression.tokens ++ rest) ≠ .integer
  | .integer value, other, rest => by
    have negative : value.toInt < 0 := by
      simpa [Expression.beginsWithDigit, Int64.le_iff_toInt_le] using other
    rw [Expression.tokens, integerTokens, if_pos negative]
    simp [Cursor.kind, Token.symbol]
  | .call callee arguments, other, rest => by
    rw [Expression.tokens, List.append_assoc]
    exact callee.kind_tokens_ne other _
  | .unary operator operand, _, rest => by
    rw [Expression.tokens]
    split <;> rintro ⟨⟩
  | .boolean true, _, _ | .boolean false, _, _ => by rintro ⟨⟩
  | .conditional _ _ none, _, _ | .conditional _ _ (some _), _, _ => by rintro ⟨⟩
  | .identifier _, _, _ | .string _, _, _ | .binary _ _ _, _, _ | .function _ _, _, _
  | .array _, _, _ | .index _ _, _, _ | .hash _, _, _ | .macroLiteral _ _, _, _ => by rintro ⟨⟩

/-- In parentheses of their own the tokens of any expression spell it. -/
theorem Spelling.enclosed {level : Level} {expression : Expression} {tokens : List Token}
    (inner : Spelling (.expression level expression) tokens) :
    Spelling (.expression .tight expression)
      (.symbol .leftParen :: (tokens ++ [.symbol .rightParen])) :=
  .parenthesized inner

/-- A unary form in parentheses. -/
theorem Spelling.applied {operator : UnaryOperator} {operand : Expression} {tokens : List Token}
    (inner : Spelling (.expression .tight operand) tokens)
    (apart : operator = .negate → Cursor.kind tokens ≠ .integer) :
    Spelling (.expression .tight (.unary operator operand))
      (.symbol .leftParen :: .symbol operator.kind :: (tokens ++ [.symbol .rightParen])) :=
  .parenthesized (.unary (by decide) apart inner)

mutual
/-- The tokens of a statement, with what separates it from others, stand before other statements. -/
theorem Statement.spelling_cons : ∀ {first : Statement}, first.Renderable →
    ∀ {body : List Statement} {more : List Token}, Spelling (.statements body) more →
      Spelling (.statements (first :: body)) (first.tokens ++ (first.separatorTokens ++ more))
  | .bind name value, renderable, _, more, tail => by
    have head : Spelling (.statement (.bind name value))
        (⟨.letWord, "let"⟩ :: ⟨.identifier, name⟩ :: .symbol .assign :: value.tokens) :=
      .bind (value.spelling_tokens renderable.2)
    have closed : Spelling _ (_ ++ .symbol .semicolon :: more) := .closed head tail
    simpa [Statement.tokens, Statement.separatorTokens] using closed
  | .ret value, renderable, _, more, tail => by
    have head : Spelling (.statement (.ret value)) (⟨.returnWord, "return"⟩ :: value.tokens) :=
      .ret (value.spelling_tokens renderable)
    have closed : Spelling _ (_ ++ .symbol .semicolon :: more) := .closed head tail
    simpa [Statement.tokens, Statement.separatorTokens] using closed
  | .evaluate expression, renderable, _, _, tail =>
    .closed (.evaluate (expression.spelling_tokens renderable)) tail
  | .group _, renderable, _, _, _ => renderable.elim

/-- The tokens of statements spell them. -/
theorem spelling_statementTokens : ∀ {body : List Statement}, StatementsRenderable body →
    Spelling (.statements body) (statementTokens body)
  | [], _ => .noStatements
  | [.evaluate expression], renderable => by
    have head := Spelling.evaluate (expression.spelling_tokens renderable.1)
    have unclosed := Spelling.unclosed head .noStatements (by decide)
    rwa [List.append_nil] at unclosed
  | [.bind name value], renderable => by
    have closed := Statement.spelling_cons renderable.1 .noStatements
    rw [Statement.separatorTokens, List.append_nil, List.append_nil] at closed
    · exact closed
    · rintro _ ⟨⟩
  | [.ret value], renderable => by
    have closed := Statement.spelling_cons renderable.1 .noStatements
    rw [Statement.separatorTokens, List.append_nil, List.append_nil] at closed
    · exact closed
    · rintro _ ⟨⟩
  | first :: second :: body, renderable =>
    first.spelling_cons renderable.1 (spelling_statementTokens renderable.2)

/-- The tokens of an expression spell it. -/
theorem Expression.spelling_tokens : ∀ {expression : Expression}, expression.Renderable →
    Spelling (.expression .tight expression) expression.tokens
  | .identifier name, _ => .identifier name
  | .integer value, _ => spelling_integerTokens value
  | .string text, _ => .string text
  | .boolean true, _ => .trueWord
  | .boolean false, _ => .falseWord
  | .unary operator operand, renderable => by
    have inner := operand.spelling_tokens renderable
    rw [Expression.tokens]
    split
    · have spelling := @Spelling.applied operator _ _ inner.enclosed fun _ => by rintro ⟨⟩
      simpa using spelling
    · next plain =>
      refine inner.applied fun negates => ?_
      have other : operand.beginsWithDigit = false := by
        rw [Bool.eq_false_iff]
        exact fun digit => plain ⟨negates, digit⟩
      have apart := Expression.kind_tokens_ne other []
      rwa [List.append_nil] at apart
  | .binary operator left right, renderable => by
    have inner : Spelling (.expression operator.level (.binary operator left right))
        (left.tokens ++ .symbol operator.kind :: right.tokens) :=
      .binary (by cases operator <;> decide) (by cases operator <;> decide)
        (left.spelling_tokens renderable.1) (right.spelling_tokens renderable.2)
    simpa [Expression.tokens] using inner.enclosed
  | .conditional condition consequence none, renderable =>
    .conditional (condition.spelling_tokens renderable.1) (spelling_statementTokens renderable.2)
  | .conditional condition consequence (some alternative), renderable => by
    rw [Expression.tokens, bracedTokens, bracedTokens, List.cons_append, List.append_assoc]
    exact .conditionalElse (condition.spelling_tokens renderable.1)
      (spelling_statementTokens renderable.2.1) (spelling_statementTokens renderable.2.2)
  | .function parameters body, renderable => by
    rw [Expression.tokens, parameterTokens, List.cons_append, List.append_assoc]
    exact .function (spelling_nameTokens parameters) (spelling_statementTokens renderable.2)
  | .call callee arguments, renderable =>
    .call (callee.spelling_tokens renderable.1) (spelling_listTokens renderable.2)
  | .array elements, renderable => .array (spelling_listTokens renderable)
  | .index collection position, renderable => by
    have inner : Spelling (.expression .tight (.index collection position))
        (collection.tokens ++ .symbol .leftBracket ::
          (position.tokens ++ [.symbol .rightBracket])) :=
      .index (collection.spelling_tokens renderable.1) (position.spelling_tokens renderable.2)
    simpa [Expression.tokens] using inner.enclosed
  | .hash pairs, renderable => .hash (spelling_pairTokens renderable)
  | .macroLiteral parameters body, renderable => by
    rw [Expression.tokens, parameterTokens, List.cons_append, List.append_assoc]
    exact .macroLiteral (spelling_nameTokens parameters) (spelling_statementTokens renderable.2)

/-- The tokens of expressions spell them. -/
theorem spelling_listTokens : ∀ {list : List Expression}, ExpressionsRenderable list →
    Spelling (.expressions list) (listTokens list)
  | [], _ => .noExpressions
  | [expression], renderable => .oneExpression (expression.spelling_tokens renderable.1)
  | first :: _ :: _, renderable =>
    .moreExpressions (first.spelling_tokens renderable.1) (spelling_listTokens renderable.2)

/-- The tokens of pairs spell them. -/
theorem spelling_pairTokens : ∀ {list : List (Expression × Expression)}, PairsRenderable list →
    Spelling (.pairs list) (pairTokens list)
  | [], _ => .noPairs
  | [(key, value)], renderable =>
    .lastPair (key.spelling_tokens renderable.1.1) (value.spelling_tokens renderable.1.2)
  | (key, value) :: _ :: _, renderable =>
    .morePairs (key.spelling_tokens renderable.1.1) (value.spelling_tokens renderable.1.2)
      (spelling_pairTokens renderable.2)
end

/-! ## Reading back -/

/-- The text of renderable statements is read as those statements. -/
theorem parseText_renderStatements {body : List Statement}
    (renderable : StatementsRenderable body) : parseText (renderStatements body) = ⟨body, []⟩ := by
  have tokens : tokenize (renderStatements body) = statementTokens body :=
    tokenize_render renderable
  rw [parseText, tokens]
  exact parse_of_spelling (spelling_statementTokens renderable)

/-- **Rendering and reading are inverse.** The text of a renderable program is read as that
program, without a diagnostic. -/
theorem parseText_render {program : Program} (renderable : program.Renderable) :
    parseText program.render = ⟨program, []⟩ := by
  rw [parseText, tokenize_render renderable]
  exact parse_of_spelling (spelling_statementTokens renderable)

/-- The program `((-(5(x))) * -9223372036854775808); if true { }()`. -/
def negatedCall : Program :=
  [.evaluate (.binary .multiply (.unary .negate (.call (.integer 5) [.identifier "x"]))
      (.integer (-9223372036854775808))),
    .evaluate (.call (.conditional (.boolean true) [] none) [])]

theorem parseText_negatedCall :
    negatedCall.Renderable ∧ parseText negatedCall.render = ⟨negatedCall, []⟩ := by
  have isName : IsName "x" := by decide
  have renderable : negatedCall.Renderable :=
    ⟨⟨⟨trivial, isName, trivial⟩, trivial⟩, ⟨⟨trivial, trivial⟩, trivial⟩, trivial⟩
  exact ⟨renderable, parseText_render renderable⟩

/-! ## Whatever was read -/

/-- The names are the words that are scanned as one identifier. -/
theorem isName_iff_tokenize {name : String} :
    IsName name ↔ tokenize name = [⟨.identifier, name⟩] := by
  constructor
  · intro isName
    have nothing : scanAll [] = [] := scanAll_eq_nil rfl
    have scanned := @scanAll_of_isName name isName [] trivial
    rwa [nothing, List.append_nil] at scanned
  · intro scanned
    have sound := sound_tokenize name
    rw [scanned, List.forall_mem_singleton] at sound
    exact sound.1 rfl

/-- **Whatever was read can be written down and read again.** The program read from any text has no
group, no string with a quote in it and no name but such words as are scanned as one identifier, at
any depth; and its own text is read as the same program, without a diagnostic. -/
theorem parseText_readable (text : String) :
    (parseText text).program.Renderable ∧
      (∀ name, IsName name ↔ tokenize name = [⟨.identifier, name⟩]) ∧
        parseText (parseText text).program.render = ⟨(parseText text).program, []⟩ :=
  ⟨renderable_parseText text, fun _ => isName_iff_tokenize,
    parseText_renderStatements (renderable_parseText text)⟩

end MonkeyLang
