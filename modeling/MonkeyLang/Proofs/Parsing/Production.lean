import MonkeyLang.Parsing
import MonkeyLang.Proofs.Parsing.Outcome
import MonkeyLang.Proofs.Parsing.Spelling

/-!
# Reading each form from its parts

For each form of the grammar, what the parser reads when the parts of the form
have been read, told by the tokens between the parts. Each lemma opens one
production once; proofs about whole programs use these lemmas and open none.
-/

set_option autoImplicit false

namespace MonkeyLang

variable {cursor after rest : Cursor}

/-! ## Lists -/

theorem reads_parameterList_nil {a : String} (next : cursor.next = ⟨.rightParen, a⟩ :: rest) :
    (parameterList cursor).Reads [] rest := by
  have peek : cursor.peek = .rightParen := Cursor.peek_of_next next
  rw [parameterList, if_pos peek, Reply.Reads, Reply.outcome_since, next]
  rfl

theorem reads_parameterList_last {name a : String}
    (next : cursor.next = ⟨.identifier, name⟩ :: ⟨.rightParen, a⟩ :: rest) :
    (parameterList cursor).Reads [name] rest := by
  have peek : cursor.peek = .identifier := Cursor.peek_of_next next
  rw [parameterList, if_neg (by rw [peek]; decide), parameterNames]
  exact outcome_expect_andThen next fun _ => (reads_expect rfl).map _

theorem reads_parameterList_more {name a : String} {names : List String}
    (next : cursor.next = ⟨.identifier, name⟩ :: ⟨.comma, a⟩ :: after)
    (further : after.kind ≠ .rightParen)
    (others : (parameterList (⟨.comma, a⟩ :: after)).Reads names rest) :
    (parameterList cursor).Reads (name :: names) rest := by
  have peek : cursor.peek = .identifier := Cursor.peek_of_next next
  rw [parameterList, if_neg (by rw [peek]; decide), parameterNames]
  have peek : Cursor.peek (⟨.comma, a⟩ :: after) ≠ .rightParen := further
  rw [parameterList, if_neg peek] at others
  exact outcome_expect_andThen next fun _ => (others.since _).map _

theorem reads_expressionList_nil (close : TokenKind) (a : String) (rest : Cursor) :
    (expressionList close (⟨close, a⟩ :: rest)).Reads [] rest := by
  rw [expressionList, if_pos (by rfl)]
  exact Reply.reads_succeed _ _

theorem reads_expressionList_last {close : TokenKind} {item : Expression} {a : String}
    (more : cursor.kind ≠ close) (notComma : close ≠ .comma)
    (first : (expression .lowest cursor).Reads item (⟨close, a⟩ :: rest)) :
    (expressionList close cursor).Reads [item] rest := by
  rw [expressionList, if_neg more, expressionItems]
  refine first.outcome_andThen fun stop _ next => ?_
  have peek : stop.peek = close := Cursor.peek_of_next next
  rw [dif_neg (peek ▸ notComma)]
  exact (reads_expect next).map _

theorem reads_expressionList_more {close : TokenKind} {item : Expression}
    {items : List Expression} {a : String} (more : cursor.kind ≠ close)
    (first : (expression .lowest cursor).Reads item (⟨.comma, a⟩ :: after))
    (further : after.kind ≠ close) (others : (expressionList close after).Reads items rest) :
    (expressionList close cursor).Reads (item :: items) rest := by
  rw [expressionList, if_neg more, expressionItems]
  rw [expressionList, if_neg further] at others
  refine first.outcome_andThen fun stop _ next => ?_
  have peek : stop.peek = .comma := Cursor.peek_of_next next
  have past : stop.next.next = after := by rw [next]; rfl
  rw [dif_pos peek, Reply.outcome_since]
  exact (past ▸ others).map _

theorem reads_pairList_nil (a : String) (rest : Cursor) :
    (pairList (⟨.rightBrace, a⟩ :: rest)).Reads [] rest := by
  rw [pairList, if_pos (by rfl)]
  exact Reply.reads_succeed _ _

theorem reads_pairList_last {key value : Expression} {a b : String}
    (more : cursor.kind ≠ .rightBrace)
    (first : (expression .lowest cursor).Reads key (⟨.colon, a⟩ :: after))
    (second : (expression .lowest after).Reads value (⟨.rightBrace, b⟩ :: rest)) :
    (pairList cursor).Reads [(key, value)] rest := by
  rw [pairList, if_neg more]
  refine first.outcome_andThen fun keyed _ next => outcome_expect_andThen next fun _ => ?_
  refine (second.since _).outcome_andThen fun stop _ next => ?_
  have peek : stop.peek = .rightBrace := Cursor.peek_of_next next
  rw [if_pos peek, Reply.outcome_since, next]
  rfl

theorem reads_pairList_more {key value : Expression} {pairs : List (Expression × Expression)}
    {a b : String} {further : Cursor} (more : cursor.kind ≠ .rightBrace)
    (first : (expression .lowest cursor).Reads key (⟨.colon, a⟩ :: after))
    (second : (expression .lowest after).Reads value (⟨.comma, b⟩ :: further))
    (others : (pairList further).Reads pairs rest) :
    (pairList cursor).Reads ((key, value) :: pairs) rest := by
  rw [pairList, if_neg more]
  refine first.outcome_andThen fun keyed _ next => outcome_expect_andThen next fun _ => ?_
  refine (second.since _).outcome_andThen fun stop _ next => ?_
  have peek : stop.peek = .comma := Cursor.peek_of_next next
  have past : stop.next.next = further := by rw [next]; rfl
  rw [if_neg (by rw [peek]; decide), dif_pos peek, Reply.outcome_since]
  exact (past ▸ others).map _

/-! ## Operands -/

theorem reads_identifier (name : String) (rest : Cursor) :
    (operand (⟨.identifier, name⟩ :: rest)).Reads (.identifier name) rest := by
  rw [operand]
  exact Reply.reads_succeed _ _

theorem reads_integer {digits : String} {value : Int64}
    (numeral : Decimal.int64? digits.toList = some value) (rest : Cursor) :
    (operand (⟨.integer, digits⟩ :: rest)).Reads (.integer value) rest := by
  rw [operand]
  simp only [numeral]
  exact Reply.reads_succeed _ _

theorem reads_string (text : String) (rest : Cursor) :
    (operand (⟨.string, text⟩ :: rest)).Reads (.string text) rest := by
  rw [operand]
  exact Reply.reads_succeed _ _

theorem reads_trueWord (a : String) (rest : Cursor) :
    (operand (⟨.trueWord, a⟩ :: rest)).Reads (.boolean true) rest := by
  rw [operand]
  exact Reply.reads_succeed _ _

theorem reads_falseWord (a : String) (rest : Cursor) :
    (operand (⟨.falseWord, a⟩ :: rest)).Reads (.boolean false) rest := by
  rw [operand]
  exact Reply.reads_succeed _ _

theorem reads_parenthesized {inner : Expression} {a b : String}
    (inside : (expression .lowest cursor).Reads inner (⟨.rightParen, b⟩ :: rest)) :
    (operand (⟨.leftParen, a⟩ :: cursor)).Reads inner rest := by
  rw [operand]
  refine Reply.Reads.since _ (inside.outcome_andThen fun stop _ next => ?_)
  exact (reads_expect next).map _

theorem reads_array {elements : List Expression} {a : String}
    (list : (expressionList .rightBracket cursor).Reads elements rest) :
    (operand (⟨.leftBracket, a⟩ :: cursor)).Reads (.array elements) rest := by
  rw [operand]
  exact (list.map _).since _

theorem reads_hash {pairs : List (Expression × Expression)} {a : String}
    (list : (pairList cursor).Reads pairs rest) :
    (operand (⟨.leftBrace, a⟩ :: cursor)).Reads (.hash pairs) rest := by
  rw [operand]
  exact (list.map _).since _

theorem reads_conditional {condition : Expression} {consequence : Block} {a b : String}
    (test : (expression .lowest cursor).Reads condition (⟨.leftBrace, b⟩ :: after))
    (body : (block after).Reads consequence rest) (notElse : rest.kind ≠ .elseWord) :
    (operand (⟨.ifWord, a⟩ :: cursor)).Reads (.conditional condition consequence none) rest := by
  rw [operand]
  refine Reply.Reads.since _ ?_
  rw [conditional]
  refine test.outcome_andThen fun tested _ next => outcome_expect_andThen next fun _ => ?_
  refine (body.since _).outcome_andThen fun closed _ next => ?_
  rw [if_neg (by rwa [Cursor.peek, next])]
  exact next ▸ Reply.reads_succeed _ _

theorem reads_conditional_else {condition : Expression} {consequence alternative : Block}
    {a b c d : String} {other : Cursor}
    (test : (expression .lowest cursor).Reads condition (⟨.leftBrace, b⟩ :: after))
    (body : (block after).Reads consequence (⟨.elseWord, c⟩ :: ⟨.leftBrace, d⟩ :: other))
    (otherwise : (block other).Reads alternative rest) :
    (operand (⟨.ifWord, a⟩ :: cursor)).Reads
      (.conditional condition consequence (some alternative)) rest := by
  rw [operand]
  refine Reply.Reads.since _ ?_
  rw [conditional]
  refine test.outcome_andThen fun tested _ next => outcome_expect_andThen next fun _ => ?_
  refine (body.since _).outcome_andThen fun closed _ next => ?_
  rw [if_pos (Cursor.peek_of_next next), Reply.outcome_since]
  have past : closed.next.next = ⟨.leftBrace, d⟩ :: other := by rw [next]; rfl
  exact outcome_expect_andThen past fun _ => (otherwise.map _).since _

/-- A callable is read alike after each of its two words. -/
theorem reads_callable {token : Token} {parameters : List String} {body : Block} {a b : String}
    {inside : Cursor}
    (list : (parameterList (⟨.leftParen, a⟩ :: cursor)).Reads parameters
      (⟨.leftBrace, b⟩ :: inside))
    (statements : (block inside).Reads body rest) :
    (callable token (⟨.leftParen, a⟩ :: cursor)).Reads (parameters, body) rest := by
  rw [callable]
  refine outcome_expect_andThen rfl fun _ => ?_
  refine list.outcome_andThen fun headed _ next => outcome_expect_andThen next fun _ => ?_
  exact (statements.map _).since _

theorem reads_function {a : String} {parameters : List String} {body : Block}
    (parts : (callable ⟨.functionWord, a⟩ cursor).Reads (parameters, body) rest) :
    (operand (⟨.functionWord, a⟩ :: cursor)).Reads (.function parameters body) rest := by
  rw [operand]
  exact parts.map _

theorem reads_macroLiteral {a : String} {parameters : List String} {body : Block}
    (parts : (callable ⟨.macroWord, a⟩ cursor).Reads (parameters, body) rest) :
    (operand (⟨.macroWord, a⟩ :: cursor)).Reads (.macroLiteral parameters body) rest := by
  rw [operand]
  exact parts.map _

/-! ## Operators -/

theorem Cursor.negated?_of_kind_ne (notInteger : cursor.kind ≠ .integer) :
    cursor.negated? = none :=
  if_neg notInteger

theorem reads_not {inner : Expression} {a : String}
    (operand_ : (expression .unary cursor).Reads inner rest) :
    (operand (⟨.bang, a⟩ :: cursor)).Reads (.unary .not inner) rest := by
  rw [operand]
  exact (operand_.map _).since _

theorem reads_negate {inner : Expression} {a : String} (notInteger : cursor.kind ≠ .integer)
    (operand_ : (expression .unary cursor).Reads inner rest) :
    (operand (⟨.minus, a⟩ :: cursor)).Reads (.unary .negate inner) rest := by
  rw [operand]
  simp only [Cursor.negated?_of_kind_ne notInteger]
  exact (operand_.map _).since _

/-- A minus sign and a numeral are one operand, which goes on like any other: its own round of
continuations under the strength of the sign makes no difference. -/
theorem outcome_expression_of_negative {weaker : Strength} {digits a : String} {value : Int64}
    {outcome : Except Diagnostic Expression × List Diagnostic × Cursor}
    (numeral : Decimal.int64? ('-' :: digits.toList) = some value)
    (order : ¬ Strength.unary < weaker)
    (comes : ∀ stop : Cursor, stop.next = rest →
      (continuation weaker (.integer value) stop).outcome = outcome) :
    (expression weaker (⟨.minus, a⟩ :: ⟨.integer, digits⟩ :: rest)).outcome = outcome := by
  have negated : Cursor.negated? (⟨.integer, digits⟩ :: rest) = some value :=
    (if_pos rfl).trans numeral
  rw [expression, operand]
  simp only [negated]
  refine (Reply.outcome_since_andThen _ _ _).trans ?_
  exact (outcome_continuation_continuation order _ _).trans (comes _ rfl)

theorem reads_binary {operator : BinaryOperator} {left right : Expression} {a : String}
    (second : (expression (Strength.ofKind operator.kind) cursor).Reads right rest) :
    (extension left (⟨operator.kind, a⟩ :: cursor)).Reads (.binary operator left right) rest := by
  rw [extension]
  cases operator <;> exact (second.map _).since _

theorem reads_call {callee : Expression} {arguments : List Expression} {a : String}
    (list : (expressionList .rightParen cursor).Reads arguments rest) :
    (extension callee (⟨.leftParen, a⟩ :: cursor)).Reads (.call callee arguments) rest := by
  rw [extension]
  exact (list.map _).since _

theorem reads_index {collection position : Expression} {a b : String}
    (inside : (expression .lowest cursor).Reads position (⟨.rightBracket, b⟩ :: rest)) :
    (extension collection (⟨.leftBracket, a⟩ :: cursor)).Reads
      (.index collection position) rest := by
  rw [extension]
  refine Reply.Reads.since _ (inside.outcome_andThen fun stop _ next => ?_)
  exact (reads_expect next).map _

/-! ## Statements -/

theorem reads_bind {name a b : String} {value : Expression}
    (right : (expression .lowest cursor).Reads value after) :
    (statement (⟨.letWord, a⟩ :: ⟨.identifier, name⟩ :: ⟨.assign, b⟩ :: cursor)).Reads
      (.bind name value) after.pastSemicolon := by
  rw [statement]
  refine outcome_expect_andThen rfl fun _ => outcome_expect_andThen rfl fun _ => ?_
  exact (right.since _).outcome_andThen fun stop _ next => next ▸ reads_closeStatement stop _

theorem reads_ret {a : String} {value : Expression}
    (right : (expression .lowest cursor).Reads value after) :
    (statement (⟨.returnWord, a⟩ :: cursor)).Reads (.ret value) after.pastSemicolon := by
  rw [statement]
  exact (right.since _).outcome_andThen fun stop _ next => next ▸ reads_closeStatement stop _

theorem reads_evaluate {value : Expression} (notLet : cursor.kind ≠ .letWord)
    (notReturn : cursor.kind ≠ .returnWord)
    (right : (expression .lowest cursor).Reads value after) :
    (statement cursor).Reads (.evaluate value) after.pastSemicolon := by
  rw [statement]
  split
  · exact absurd ‹_› notLet
  · exact absurd ‹_› notReturn
  · exact right.outcome_andThen fun stop _ next => next ▸ reads_closeStatement stop _

/-! ## Blocks and programs -/

theorem reads_block_nil (a : String) (rest : Cursor) :
    (block (⟨.rightBrace, a⟩ :: rest)).Reads [] rest := by
  rw [block, if_pos (by rfl)]
  exact Reply.reads_succeed _ _

theorem reads_block_cons {first : Statement} {body : Block}
    (notClosed : cursor.kind ≠ .rightBrace) (notEnd : cursor.kind ≠ .endOfInput)
    (head : (statement cursor).Reads first after) (tail : (block after).Reads body rest) :
    (block cursor).Reads (first :: body) rest := by
  rw [block, if_neg notClosed, dif_neg notEnd]
  exact head.outcome_orSkip fun stop _ next => (next ▸ tail).map _

theorem parse_nil : parse [] = ⟨[], []⟩ := by
  rw [parse, dif_pos (by rfl)]

theorem parse_of_reads {first : Statement} (notEnd : cursor.kind ≠ .endOfInput)
    (head : (statement cursor).Reads first rest) :
    parse cursor = (parse rest).keep first [] := by
  have read : (statement cursor).result = .ok first := congrArg Prod.fst head
  have recorded : (statement cursor).recorded = [] := congrArg (·.2.1) head
  have next : (statement cursor).stop.next = rest := congrArg (·.2.2) head
  rw [parse, dif_neg notEnd]
  simp only [read, recorded, next]

end MonkeyLang
