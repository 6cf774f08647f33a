import MonkeyLang.Decimal
import MonkeyLang.Parsing.Reply
import MonkeyLang.Syntax

/-!
# How syntax is spelled

The grammar of the language as a relation between syntax and tokens, stated
without the parser. An expression is spelled at a level, which says how tightly
its outermost form holds together. Binary operators have four levels, unary
operators stand above them, and every other form is tight; a pair of parentheses
makes any spelling tight.

A binary operator asks for a left operand at its own level or above and for a
right operand above its own level, so operators of one level group to the left.
A unary operator takes an operand that is unary or tight. What is called or
indexed is tight. Inside delimiters any level will do.

A statement may be followed by a semicolon. The semicolon can be left out unless
the tokens after it begin with a minus sign, an opening parenthesis or an opening
bracket, which would go on with the statement before them.

Only the kind of a symbol or a keyword counts, so its text is left open.
-/

set_option autoImplicit false

namespace MonkeyLang

/-! ## Levels -/

/-- How tightly the outermost form of an expression holds together. -/
inductive Level where
  | equality
  | comparison
  | sum
  | product
  | unary
  | tight
  deriving DecidableEq

namespace Level

/-- The place of a level in the order, the loosest first. -/
def height : Level → Nat
  | equality => 0
  | comparison => 1
  | sum => 2
  | product => 3
  | unary => 4
  | tight => 5

instance : LE Level := ⟨fun looser tighter => looser.height ≤ tighter.height⟩

instance : LT Level := ⟨fun looser tighter => looser.height < tighter.height⟩

instance (looser tighter : Level) : Decidable (looser ≤ tighter) :=
  inferInstanceAs (Decidable (looser.height ≤ tighter.height))

instance (looser tighter : Level) : Decidable (looser < tighter) :=
  inferInstanceAs (Decidable (looser.height < tighter.height))

end Level

/-- The level of a binary operator. -/
def BinaryOperator.level : BinaryOperator → Level
  | equal | notEqual => .equality
  | less | greater => .comparison
  | add | subtract => .sum
  | multiply | divide => .product

/-- The kind of the token that writes a binary operator. -/
def BinaryOperator.kind : BinaryOperator → TokenKind
  | add => .plus
  | subtract => .minus
  | multiply => .asterisk
  | divide => .slash
  | less => .less
  | greater => .greater
  | equal => .equal
  | notEqual => .notEqual

/-- The only kind that writes an operator. -/
theorem BinaryOperator.kind_of_ofKind? {kind : TokenKind} {operator : BinaryOperator}
    (found : BinaryOperator.ofKind? kind = some operator) : kind = operator.kind := by
  cases kind <;> cases found <;> rfl

/-- The kind of the token that writes a unary operator. -/
def UnaryOperator.kind : UnaryOperator → TokenKind
  | not => .bang
  | negate => .minus

/-! ## Spellings -/

/-- What tokens can spell. -/
inductive Phrase where
  | expression (level : Level) (expression : Expression)
  /-- Expressions separated by commas. -/
  | expressions (list : List Expression)
  /-- Keys and values separated by commas, where one comma may follow the last pair. -/
  | pairs (list : List (Expression × Expression))
  /-- Names separated by commas. -/
  | names (list : List String)
  /-- A statement without the semicolon after it. -/
  | statement (statement : Statement)
  /-- A whole program, or what stands between the braces of a block. -/
  | statements (body : List Statement)

/-- The kinds of tokens that go on with the statement before them when no semicolon stands
between, and that begin statements too. -/
def TokenKind.ambiguousStarts : List TokenKind :=
  [.minus, .leftParen, .leftBracket]

/-- The tokens spell the phrase. -/
inductive Spelling : Phrase → List Token → Prop where
  | identifier (name : String) :
      Spelling (.expression .tight (.identifier name)) [⟨.identifier, name⟩]
  | integer {digits : String} {value : Nat}
      (numeral : Decimal.natural? digits.toList = some value)
      (fits : value < 9223372036854775808) :
      Spelling (.expression .tight (.integer (Int64.ofNat value))) [⟨.integer, digits⟩]
  /-- A minus sign before a numeral belongs to the number. -/
  | negative {digits a : String} {value : Nat}
      (numeral : Decimal.natural? digits.toList = some value)
      (fits : value ≤ 9223372036854775808) :
      Spelling (.expression .tight (.integer (Int64.ofInt (-value))))
        [⟨.minus, a⟩, ⟨.integer, digits⟩]
  | string (text : String) : Spelling (.expression .tight (.string text)) [⟨.string, text⟩]
  | trueWord {a : String} : Spelling (.expression .tight (.boolean true)) [⟨.trueWord, a⟩]
  | falseWord {a : String} : Spelling (.expression .tight (.boolean false)) [⟨.falseWord, a⟩]
  /-- An operand that begins with a numeral cannot stand after a minus sign as it is. -/
  | unary {operator : UnaryOperator} {level : Level} {operand : Expression} {tokens : List Token}
      {a : String} (high : .unary ≤ level)
      (apart : operator = .negate → Cursor.kind tokens ≠ .integer)
      (inner : Spelling (.expression level operand) tokens) :
      Spelling (.expression .unary (.unary operator operand)) (⟨operator.kind, a⟩ :: tokens)
  | binary {operator : BinaryOperator} {leftLevel rightLevel : Level} {left right : Expression}
      {before after : List Token} {a : String} (atLeast : operator.level ≤ leftLevel)
      (above : operator.level < rightLevel)
      (first : Spelling (.expression leftLevel left) before)
      (second : Spelling (.expression rightLevel right) after) :
      Spelling (.expression operator.level (.binary operator left right))
        (before ++ ⟨operator.kind, a⟩ :: after)
  | call {callee : Expression} {arguments : List Expression} {before inside : List Token}
      {a b : String} (first : Spelling (.expression .tight callee) before)
      (second : Spelling (.expressions arguments) inside) :
      Spelling (.expression .tight (.call callee arguments))
        (before ++ ⟨.leftParen, a⟩ :: (inside ++ [⟨.rightParen, b⟩]))
  | index {level : Level} {collection position : Expression} {before inside : List Token}
      {a b : String} (first : Spelling (.expression .tight collection) before)
      (second : Spelling (.expression level position) inside) :
      Spelling (.expression .tight (.index collection position))
        (before ++ ⟨.leftBracket, a⟩ :: (inside ++ [⟨.rightBracket, b⟩]))
  | array {elements : List Expression} {inside : List Token} {a b : String}
      (inner : Spelling (.expressions elements) inside) :
      Spelling (.expression .tight (.array elements))
        (⟨.leftBracket, a⟩ :: (inside ++ [⟨.rightBracket, b⟩]))
  | hash {list : List (Expression × Expression)} {inside : List Token} {a b : String}
      (inner : Spelling (.pairs list) inside) :
      Spelling (.expression .tight (.hash list))
        (⟨.leftBrace, a⟩ :: (inside ++ [⟨.rightBrace, b⟩]))
  | conditional {level : Level} {condition : Expression} {consequence : List Statement}
      {test inside : List Token} {a b c : String}
      (first : Spelling (.expression level condition) test)
      (second : Spelling (.statements consequence) inside) :
      Spelling (.expression .tight (.conditional condition consequence none))
        (⟨.ifWord, a⟩ :: (test ++ ⟨.leftBrace, b⟩ :: (inside ++ [⟨.rightBrace, c⟩])))
  | conditionalElse {level : Level} {condition : Expression}
      {consequence alternative : List Statement} {test inside other : List Token}
      {a b c d e f : String} (first : Spelling (.expression level condition) test)
      (second : Spelling (.statements consequence) inside)
      (third : Spelling (.statements alternative) other) :
      Spelling (.expression .tight (.conditional condition consequence (some alternative)))
        (⟨.ifWord, a⟩ :: (test ++ ⟨.leftBrace, b⟩ :: (inside ++ ⟨.rightBrace, c⟩ ::
          ⟨.elseWord, d⟩ :: ⟨.leftBrace, e⟩ :: (other ++ [⟨.rightBrace, f⟩]))))
  | function {parameters : List String} {body : List Statement} {list inside : List Token}
      {a b c d e : String} (first : Spelling (.names parameters) list)
      (second : Spelling (.statements body) inside) :
      Spelling (.expression .tight (.function parameters body))
        (⟨.functionWord, a⟩ :: ⟨.leftParen, b⟩ :: (list ++ ⟨.rightParen, c⟩ ::
          ⟨.leftBrace, d⟩ :: (inside ++ [⟨.rightBrace, e⟩])))
  | macroLiteral {parameters : List String} {body : List Statement} {list inside : List Token}
      {a b c d e : String} (first : Spelling (.names parameters) list)
      (second : Spelling (.statements body) inside) :
      Spelling (.expression .tight (.macroLiteral parameters body))
        (⟨.macroWord, a⟩ :: ⟨.leftParen, b⟩ :: (list ++ ⟨.rightParen, c⟩ ::
          ⟨.leftBrace, d⟩ :: (inside ++ [⟨.rightBrace, e⟩])))
  /-- Parentheses make any spelling tight. -/
  | parenthesized {level : Level} {expression : Expression} {inside : List Token} {a b : String}
      (inner : Spelling (.expression level expression) inside) :
      Spelling (.expression .tight expression)
        (⟨.leftParen, a⟩ :: (inside ++ [⟨.rightParen, b⟩]))
  | noExpressions : Spelling (.expressions []) []
  | oneExpression {level : Level} {expression : Expression} {tokens : List Token}
      (inner : Spelling (.expression level expression) tokens) :
      Spelling (.expressions [expression]) tokens
  | moreExpressions {level : Level} {first second : Expression} {list : List Expression}
      {tokens more : List Token} {a : String}
      (head : Spelling (.expression level first) tokens)
      (tail : Spelling (.expressions (second :: list)) more) :
      Spelling (.expressions (first :: second :: list)) (tokens ++ ⟨.comma, a⟩ :: more)
  | noPairs : Spelling (.pairs []) []
  | lastPair {keyLevel valueLevel : Level} {key value : Expression} {before after : List Token}
      {a : String} (first : Spelling (.expression keyLevel key) before)
      (second : Spelling (.expression valueLevel value) after) :
      Spelling (.pairs [(key, value)]) (before ++ ⟨.colon, a⟩ :: after)
  /-- The pairs after the comma may be none. -/
  | morePairs {keyLevel valueLevel : Level} {key value : Expression}
      {list : List (Expression × Expression)} {before after more : List Token} {a b : String}
      (first : Spelling (.expression keyLevel key) before)
      (second : Spelling (.expression valueLevel value) after)
      (tail : Spelling (.pairs list) more) :
      Spelling (.pairs ((key, value) :: list))
        (before ++ ⟨.colon, a⟩ :: (after ++ ⟨.comma, b⟩ :: more))
  | noNames : Spelling (.names []) []
  | oneName (name : String) : Spelling (.names [name]) [⟨.identifier, name⟩]
  | moreNames {first second : String} {list : List String} {more : List Token} {a : String}
      (tail : Spelling (.names (second :: list)) more) :
      Spelling (.names (first :: second :: list)) (⟨.identifier, first⟩ :: ⟨.comma, a⟩ :: more)
  | bind {level : Level} {name : String} {value : Expression} {tokens : List Token} {a b : String}
      (inner : Spelling (.expression level value) tokens) :
      Spelling (.statement (.bind name value))
        (⟨.letWord, a⟩ :: ⟨.identifier, name⟩ :: ⟨.assign, b⟩ :: tokens)
  | ret {level : Level} {value : Expression} {tokens : List Token} {a : String}
      (inner : Spelling (.expression level value) tokens) :
      Spelling (.statement (.ret value)) (⟨.returnWord, a⟩ :: tokens)
  | evaluate {level : Level} {expression : Expression} {tokens : List Token}
      (inner : Spelling (.expression level expression) tokens) :
      Spelling (.statement (.evaluate expression)) tokens
  | noStatements : Spelling (.statements []) []
  | closed {first : Statement} {body : List Statement} {tokens more : List Token} {a : String}
      (head : Spelling (.statement first) tokens) (tail : Spelling (.statements body) more) :
      Spelling (.statements (first :: body)) (tokens ++ ⟨.semicolon, a⟩ :: more)
  /-- A semicolon is left out. -/
  | unclosed {first : Statement} {body : List Statement} {tokens more : List Token}
      (head : Spelling (.statement first) tokens) (tail : Spelling (.statements body) more)
      (unambiguous : Cursor.kind more ∉ TokenKind.ambiguousStarts) :
      Spelling (.statements (first :: body)) (tokens ++ more)

/-! ## What a spelling begins with -/

/-- Whether an expression can begin with a token of this kind. -/
def TokenKind.startsExpression : TokenKind → Bool
  | .identifier | .integer | .string | .trueWord | .falseWord | .bang | .minus | .leftParen
  | .leftBracket | .leftBrace | .ifWord | .functionWord | .macroWord => true
  | _ => false

/-- Whether a statement can begin with a token of this kind. -/
def TokenKind.startsStatement (kind : TokenKind) : Bool :=
  kind.startsExpression || kind == .letWord || kind == .returnWord

theorem TokenKind.startsStatement_of_startsExpression {kind : TokenKind}
    (starts : kind.startsExpression = true) : kind.startsStatement = true := by
  rw [startsStatement, starts]
  rfl

/-- The end of the input begins nothing. -/
theorem TokenKind.ne_endOfInput_of_startsStatement {kind : TokenKind}
    (starts : kind.startsStatement = true) : kind ≠ .endOfInput := by
  rintro rfl
  cases starts

/-- What begins a statement still begins it before more tokens. -/
theorem Cursor.kind_append {tokens : List Token}
    (starts : (Cursor.kind tokens).startsStatement = true) (rest : List Token) :
    Cursor.kind (tokens ++ rest) = Cursor.kind tokens := by
  cases tokens with
  | nil => exact absurd rfl (TokenKind.ne_endOfInput_of_startsStatement starts)
  | cons token tokens => rfl

theorem Cursor.startsStatement_append {tokens : List Token}
    (starts : (Cursor.kind tokens).startsStatement = true) (rest : List Token) :
    (Cursor.kind (tokens ++ rest)).startsStatement = true := by
  rwa [Cursor.kind_append starts]

theorem Cursor.startsExpression_append {tokens : List Token}
    (starts : (Cursor.kind tokens).startsExpression = true) (rest : List Token) :
    (Cursor.kind (tokens ++ rest)).startsExpression = true := by
  rwa [Cursor.kind_append (TokenKind.startsStatement_of_startsExpression starts)]

/-- Whether a spelling of a phrase can begin with a token of this kind. -/
def Phrase.startsWith : Phrase → TokenKind → Bool
  | .expression _ _, kind => kind.startsExpression
  | .expressions (_ :: _), kind => kind.startsExpression
  | .names (_ :: _), kind => kind == .identifier
  | .statement _, kind => kind.startsStatement
  | .statements (_ :: _), kind => kind.startsStatement
  | _, _ => true

/-- A spelling that is not empty begins with a token that can begin its phrase. -/
theorem Spelling.startsWith {phrase : Phrase} {tokens : List Token}
    (spelling : Spelling phrase tokens) : phrase.startsWith (Cursor.kind tokens) = true := by
  induction spelling with
  | @unary operator _ _ _ _ _ _ _ _ => cases operator <;> rfl
  | binary _ _ _ _ ih _ => exact Cursor.startsExpression_append ih _
  | call _ _ ih _ => exact Cursor.startsExpression_append ih _
  | index _ _ ih _ => exact Cursor.startsExpression_append ih _
  | oneExpression _ ih => exact ih
  | moreExpressions _ _ ih _ => exact Cursor.startsExpression_append ih _
  | evaluate _ ih => exact TokenKind.startsStatement_of_startsExpression ih
  | closed _ _ ih _ => exact Cursor.startsStatement_append ih _
  | unclosed _ _ _ ih _ => exact Cursor.startsStatement_append ih _
  | _ => rfl

section Starts

variable {level : Level} {value : Expression} {first : Statement} {tokens : List Token}

theorem Spelling.startsExpression (spelling : Spelling (.expression level value) tokens)
    (rest : List Token) : (Cursor.kind (tokens ++ rest)).startsExpression = true :=
  Cursor.startsExpression_append spelling.startsWith rest

theorem Spelling.startsStatement (spelling : Spelling (.statement first) tokens)
    (rest : List Token) : (Cursor.kind (tokens ++ rest)).startsStatement = true :=
  Cursor.startsStatement_append spelling.startsWith rest

end Starts

end MonkeyLang
