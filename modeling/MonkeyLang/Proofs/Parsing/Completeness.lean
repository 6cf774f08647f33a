import MonkeyLang.Proofs.Parsing.Production
import MonkeyLang.Proofs.Parsing.Spelling

/-!
# The parser reads what the grammar spells

Every spelling of a program is read as that program, without a diagnostic
(`parse_of_spelling`).

The proof is one induction over spellings. For an expression the induction says
how any spelling of it stands before any tokens: the parser reaches the end of
the spelling with the expression as the operand so far, and what it does from
there on is to continue that operand. The strength under which it was entered
has to let the level of the spelling pass, and the tokens after it must not go
on with a part of the spelling in place of the whole.
-/

set_option autoImplicit false

namespace MonkeyLang

/-! ## Levels and strengths -/

/-- The strength of the continuations that hold an expression of a level together. -/
def Level.strength : Level → Strength
  | equality => .equality
  | comparison => .comparison
  | sum => .sum
  | product => .product
  | unary => .unary
  | tight => .index

/-- An expression of this level is read whole under a strength. -/
def Level.Passes (level : Level) (weaker : Strength) : Prop :=
  ¬ Strength.unary < weaker ∧ (weaker < level.strength ∨ level = .unary)

instance (level : Level) (weaker : Strength) : Decidable (level.Passes weaker) :=
  inferInstanceAs (Decidable (_ ∧ _))

/-- A token of this kind does not go on with a part of an expression of this level. -/
def Level.EndsBefore (level : Level) (kind : TokenKind) : Prop :=
  kind ≠ .elseWord ∧ ¬ level.strength < Strength.ofKind kind

/-- A token of this kind ends every expression. -/
def TokenKind.EndsExpression (kind : TokenKind) : Prop :=
  kind ≠ .elseWord ∧ Strength.ofKind kind = .lowest

instance (kind : TokenKind) : Decidable kind.EndsExpression :=
  inferInstanceAs (Decidable (_ ∧ _))

theorem Level.rank_strength (level : Level) :
    level.strength.rank = level.height + 1 + level.height / 5 := by
  cases level <;> rfl

theorem Level.passes_lowest (level : Level) : level.Passes .lowest := by
  cases level <;> decide

theorem Level.passes_unary {level : Level} (high : .unary ≤ level) : level.Passes .unary := by
  revert high
  cases level <;> decide

/-- A binary operator is as strong as its level. -/
theorem BinaryOperator.strength_kind (operator : BinaryOperator) :
    Strength.ofKind operator.kind = operator.level.strength := by
  cases operator <;> rfl

/-- The right operand of an operator is read whole under the strength of the operator. -/
theorem Level.passes_of_lt {operator : BinaryOperator} {level : Level}
    (above : operator.level < level) : level.Passes (Strength.ofKind operator.kind) := by
  revert above
  cases operator <;> cases level <;> decide

/-- A strength that lets a level pass lets the tighter ones pass. -/
theorem Level.Passes.mono {looser tighter : Level} {weaker : Strength}
    (passes : looser.Passes weaker) (order : looser ≤ tighter) : tighter.Passes weaker := by
  revert passes order
  cases looser <;> cases tighter <;> cases weaker <;> decide

/-- A strength that lets a binary operator pass is weaker than the operator. -/
theorem Level.Passes.lt_strength {operator : BinaryOperator} {weaker : Strength}
    (passes : operator.level.Passes weaker) : weaker < Strength.ofKind operator.kind := by
  revert passes
  cases operator <;> cases weaker <;> decide

/-- What is called or indexed stands under any strength that lets tight expressions pass. -/
theorem Level.Passes.lt_call {level : Level} {weaker : Strength} (passes : level.Passes weaker) :
    weaker < .call := by
  have order := passes.1
  rw [Strength.lt_iff] at order ⊢
  exact Nat.lt_succ_of_le (Nat.le_of_not_lt order)

theorem Level.Passes.lt_index {level : Level} {weaker : Strength} (passes : level.Passes weaker) :
    weaker < .index :=
  Nat.lt_succ_of_lt passes.lt_call

/-- What ends a loose expression ends a tighter one. -/
theorem Level.EndsBefore.mono {looser tighter : Level} {kind : TokenKind}
    (ends : looser.EndsBefore kind) (order : looser ≤ tighter) : tighter.EndsBefore kind := by
  refine ⟨ends.1, fun stronger => ends.2 ?_⟩
  have order : looser.height ≤ tighter.height := order
  rw [Strength.lt_iff, Level.rank_strength] at stronger ⊢
  omega

theorem Level.endsBefore_operator (operator : BinaryOperator) :
    operator.level.EndsBefore operator.kind := by
  refine ⟨by cases operator <;> decide, ?_⟩
  rw [operator.strength_kind, Strength.lt_iff]
  exact Nat.lt_irrefl _

theorem Level.endsBefore_tight {kind : TokenKind} (notElse : kind ≠ .elseWord) :
    Level.tight.EndsBefore kind := by
  refine ⟨notElse, ?_⟩
  cases kind <;> decide

theorem TokenKind.EndsExpression.endsBefore {kind : TokenKind} (ends : kind.EndsExpression)
    (level : Level) : level.EndsBefore kind := by
  refine ⟨ends.1, ?_⟩
  rw [ends.2]
  exact Strength.not_lt_lowest _

/-- A token that begins a statement and cannot go on with the one before it ends that one. -/
theorem TokenKind.endsExpression_of_startsStatement {kind : TokenKind}
    (starts : kind.startsStatement = true) (unambiguous : kind ∉ TokenKind.ambiguousStarts) :
    kind.EndsExpression := by
  revert starts unambiguous
  cases kind <;> decide

/-- A token of this kind closes a list of expressions. -/
def TokenKind.ClosesList (kind : TokenKind) : Prop :=
  kind = .rightParen ∨ kind = .rightBracket

namespace TokenKind.ClosesList

variable {kind : TokenKind} (closes : kind.ClosesList)
include closes

theorem endsExpression : kind.EndsExpression := by
  rcases closes with rfl | rfl <;> decide

theorem ne_comma : kind ≠ .comma := by
  rcases closes with rfl | rfl <;> decide

theorem ne_of_startsExpression {start : TokenKind} (starts : start.startsExpression = true) :
    start ≠ kind := by
  rintro rfl
  rcases closes with rfl | rfl <;> cases starts

end TokenKind.ClosesList

theorem TokenKind.ne_rightBrace_of_startsStatement {kind : TokenKind}
    (starts : kind.startsStatement = true) : kind ≠ .rightBrace := by
  rintro rfl
  cases starts

theorem TokenKind.ne_rightBrace_of_startsExpression {kind : TokenKind}
    (starts : kind.startsExpression = true) : kind ≠ .rightBrace :=
  ne_rightBrace_of_startsStatement (startsStatement_of_startsExpression starts)

theorem TokenKind.ne_semicolon_of_startsStatement {kind : TokenKind}
    (starts : kind.startsStatement = true) : kind ≠ .semicolon := by
  rintro rfl
  cases starts

/-! ## What it is to read a spelling -/

/-- The parser reads these tokens as the phrase, before any tokens that leave it whole. -/
def ParsesAs : Phrase → List Token → Prop
  | .expression level value, tokens =>
      ∀ (weaker : Strength) (rest : Cursor)
        (outcome : Except Diagnostic Expression × List Diagnostic × Cursor),
        level.Passes weaker → level.EndsBefore rest.kind →
        (∀ stop : Cursor, stop.next = rest →
          (continuation weaker value stop).outcome = outcome) →
        (expression weaker (tokens ++ rest)).outcome = outcome
  | .expressions list, tokens =>
      ∀ (close : TokenKind) (a : String) (rest : Cursor), close.ClosesList →
        (expressionList close (tokens ++ ⟨close, a⟩ :: rest)).Reads list rest
  | .pairs list, tokens =>
      ∀ (a : String) (rest : Cursor),
        (pairList (tokens ++ ⟨.rightBrace, a⟩ :: rest)).Reads list rest
  | .names list, tokens =>
      ∀ (a : String) (cursor rest : Cursor), cursor.next = tokens ++ ⟨.rightParen, a⟩ :: rest →
        (parameterList cursor).Reads list rest
  | .statement first, tokens =>
      ∀ rest : Cursor, rest.kind.EndsExpression →
        (statement (tokens ++ rest)).Reads first rest.pastSemicolon
  | .statements body, tokens =>
      (∀ (a : String) (rest : Cursor),
        (block (tokens ++ ⟨.rightBrace, a⟩ :: rest)).Reads body rest) ∧ parse tokens = ⟨body, []⟩

section Reading

variable {level : Level} {value : Expression} {tokens : List Token} {rest : Cursor}

/-- A tight expression is read when it is read as an operand. -/
theorem parsesAs_of_operand
    (reads : ∀ rest : Cursor, rest.kind ≠ .elseWord →
      (operand (tokens ++ rest)).Reads value rest) :
    ParsesAs (.expression .tight value) tokens := by
  intro weaker rest outcome _ ends comes
  exact outcome_expression_of_operand (reads rest ends.1) comes

/-- An expression is read whole before a token that the strength does not let in. -/
theorem ParsesAs.reads_expression (read : ParsesAs (.expression level value) tokens)
    {weaker : Strength} (passes : level.Passes weaker) (ends : level.EndsBefore rest.kind)
    (stops : ¬ weaker < Strength.ofKind rest.kind) :
    (expression weaker (tokens ++ rest)).Reads value rest := by
  refine read weaker rest _ passes ends fun stop next => ?_
  subst next
  exact reads_continuation stops value

/-- Before a token that ends every expression an expression of any level is read whole. -/
theorem ParsesAs.reads_lowest (read : ParsesAs (.expression level value) tokens)
    (ends : rest.kind.EndsExpression) :
    (expression .lowest (tokens ++ rest)).Reads value rest := by
  refine read.reads_expression level.passes_lowest (ends.endsBefore level) ?_
  rw [ends.2]
  exact Strength.not_lt_lowest _

theorem ParsesAs.reads_before (read : ParsesAs (.expression level value) tokens)
    {kind : TokenKind} (ends : kind.EndsExpression) (a : String) (rest : Cursor) :
    (expression .lowest (tokens ++ ⟨kind, a⟩ :: rest)).Reads value (⟨kind, a⟩ :: rest) := by
  have ends : (Cursor.kind (⟨kind, a⟩ :: rest)).EndsExpression := ends
  exact read.reads_lowest ends

/-- A statement is read before the rest of a body when what stands between ends it. -/
theorem parsesAs_statements_cons {first : Statement} {body : List Statement}
    {following more : List Token}
    (starts : ∀ rest : Cursor, (Cursor.kind (tokens ++ rest)).startsStatement = true)
    (head : ParsesAs (.statement first) tokens) (tail : ParsesAs (.statements body) more)
    (between : ∀ rest : Cursor, rest.kind = .rightBrace ∨ rest = [] →
      (Cursor.kind (following ++ rest)).EndsExpression ∧
        Cursor.pastSemicolon (following ++ rest) = more ++ rest) :
    ParsesAs (.statements (first :: body)) (tokens ++ following) := by
  have reads : ∀ rest : Cursor, rest.kind = .rightBrace ∨ rest = [] →
      (statement (tokens ++ (following ++ rest))).Reads first (more ++ rest) := by
    intro rest last
    obtain ⟨ends, past⟩ := between rest last
    exact past ▸ head (following ++ rest) ends
  refine ⟨fun a rest => ?_, ?_⟩
  · rw [List.append_assoc]
    exact reads_block_cons (TokenKind.ne_rightBrace_of_startsStatement (starts _))
      (TokenKind.ne_endOfInput_of_startsStatement (starts _))
      (reads (⟨.rightBrace, a⟩ :: rest) (.inl rfl)) (tail.1 a rest)
  · have reads := reads [] (.inr rfl)
    rw [List.append_nil, List.append_nil] at reads
    rw [parse_of_reads (TokenKind.ne_endOfInput_of_startsStatement (starts _)) reads, tail.2]
    rfl

end Reading

/-! ## The induction -/

/-- The parser reads every spelling. -/
theorem Spelling.parsesAs {phrase : Phrase} {tokens : List Token}
    (spelling : Spelling phrase tokens) : ParsesAs phrase tokens := by
  induction spelling with
  | identifier name => exact parsesAs_of_operand fun rest _ => reads_identifier name rest
  | integer numeral fits =>
      exact parsesAs_of_operand fun rest _ =>
        reads_integer (Decimal.int64?_of_natural? numeral fits) rest
  | negative numeral fits =>
      intro weaker rest outcome passes _ comes
      exact outcome_expression_of_negative (Decimal.int64?_minus_of_natural? numeral fits)
        passes.1 comes
  | string text => exact parsesAs_of_operand fun rest _ => reads_string text rest
  | trueWord => exact parsesAs_of_operand fun rest _ => reads_trueWord _ rest
  | falseWord => exact parsesAs_of_operand fun rest _ => reads_falseWord _ rest
  | @unary operator level operand tokens a high apart inner ih =>
      intro weaker rest outcome passes ends comes
      have reads := ih.reads_expression (Level.passes_unary high) (ends.mono high) ends.2
      refine outcome_expression_of_operand ?_ comes
      cases operator with
      | not => exact reads_not reads
      | negate =>
          have starts := TokenKind.startsStatement_of_startsExpression inner.startsWith
          have apart : Cursor.kind (tokens ++ rest) ≠ .integer := by
            rw [Cursor.kind_append starts]
            exact apart rfl
          exact reads_negate apart reads
  | @binary operator _ _ _ right _ after _ atLeast above _ _ ihLeft ihRight =>
      intro weaker rest outcome passes ends comes
      rw [List.append_assoc, List.cons_append]
      refine ihLeft weaker _ outcome (passes.mono atLeast)
        ((Level.endsBefore_operator operator).mono atLeast) fun stop next => ?_
      have reads : (expression (Strength.ofKind operator.kind) (after ++ rest)).Reads right rest :=
        ihRight.reads_expression (Level.passes_of_lt above) (ends.mono (Nat.le_of_lt above))
          (operator.strength_kind ▸ ends.2)
      refine outcome_continuation_of_extension ?_ (next ▸ reads_binary reads) comes
      rw [Cursor.peek_of_next next]
      exact passes.lt_strength
  | @call callee _ _ _ a b _ _ ihCallee ihArguments =>
      intro weaker rest outcome passes _ comes
      rw [List.append_assoc, List.cons_append, List.append_assoc, List.singleton_append]
      refine ihCallee weaker _ outcome passes (Level.endsBefore_tight (by simp [Cursor.kind]))
        fun stop next => ?_
      have list := ihArguments .rightParen b rest (.inl rfl)
      refine outcome_continuation_of_extension ?_ (next ▸ reads_call list) comes
      rw [Cursor.peek_of_next next]
      exact passes.lt_call
  | @index _ _ _ _ _ a b _ _ ihCollection ihPosition =>
      intro weaker rest outcome passes _ comes
      rw [List.append_assoc, List.cons_append, List.append_assoc, List.singleton_append]
      refine ihCollection weaker _ outcome passes
        (Level.endsBefore_tight (by simp [Cursor.kind])) fun stop next => ?_
      have ends : TokenKind.EndsExpression .rightBracket := by decide
      have reads := ihPosition.reads_before ends b rest
      refine outcome_continuation_of_extension ?_ (next ▸ reads_index reads) comes
      rw [Cursor.peek_of_next next]
      exact passes.lt_index
  | array _ ih =>
      refine parsesAs_of_operand fun rest _ => ?_
      rw [List.cons_append, List.append_assoc, List.singleton_append]
      exact reads_array (ih .rightBracket _ rest (.inr rfl))
  | hash _ ih =>
      refine parsesAs_of_operand fun rest _ => ?_
      rw [List.cons_append, List.append_assoc, List.singleton_append]
      exact reads_hash (ih _ rest)
  | conditional _ _ ihCondition ihConsequence =>
      refine parsesAs_of_operand fun rest notElse => ?_
      rw [List.cons_append, List.append_assoc, List.cons_append, List.append_assoc,
        List.singleton_append]
      exact reads_conditional (ihCondition.reads_before (by decide) _ _) (ihConsequence.1 _ rest)
        notElse
  | conditionalElse _ _ _ ihCondition ihConsequence ihAlternative =>
      refine parsesAs_of_operand fun rest _ => ?_
      rw [List.cons_append, List.append_assoc, List.cons_append, List.append_assoc,
        List.cons_append, List.cons_append, List.cons_append, List.append_assoc,
        List.singleton_append]
      exact reads_conditional_else (ihCondition.reads_before (by decide) _ _)
        (ihConsequence.1 _ _) (ihAlternative.1 _ rest)
  | function _ _ ihParameters ihBody =>
      refine parsesAs_of_operand fun rest _ => ?_
      rw [List.cons_append, List.cons_append, List.append_assoc, List.cons_append,
        List.cons_append, List.append_assoc, List.singleton_append]
      exact reads_function (reads_callable (ihParameters _ _ _ rfl) (ihBody.1 _ rest))
  | macroLiteral _ _ ihParameters ihBody =>
      refine parsesAs_of_operand fun rest _ => ?_
      rw [List.cons_append, List.cons_append, List.append_assoc, List.cons_append,
        List.cons_append, List.append_assoc, List.singleton_append]
      exact reads_macroLiteral (reads_callable (ihParameters _ _ _ rfl) (ihBody.1 _ rest))
  | parenthesized _ ih =>
      refine parsesAs_of_operand fun rest _ => ?_
      rw [List.cons_append, List.append_assoc, List.singleton_append]
      exact reads_parenthesized (ih.reads_before (by decide) _ rest)
  | noExpressions =>
      intro close a rest _
      exact reads_expressionList_nil close a rest
  | oneExpression inner ih =>
      intro close a rest closes
      exact reads_expressionList_last (closes.ne_of_startsExpression (inner.startsExpression _))
        closes.ne_comma (ih.reads_before closes.endsExpression a rest)
  | moreExpressions head tail ihHead ihTail =>
      intro close a rest closes
      rw [List.append_assoc, List.cons_append]
      have further := Cursor.startsExpression_append tail.startsWith (⟨close, a⟩ :: rest)
      exact reads_expressionList_more (closes.ne_of_startsExpression (head.startsExpression _))
        (ihHead.reads_before (by decide) _ _) (closes.ne_of_startsExpression further)
        (ihTail close a rest closes)
  | noPairs =>
      intro a rest
      exact reads_pairList_nil a rest
  | lastPair first _ ihKey ihValue =>
      intro a rest
      rw [List.append_assoc, List.cons_append]
      exact reads_pairList_last
        (TokenKind.ne_rightBrace_of_startsExpression (first.startsExpression _))
        (ihKey.reads_before (by decide) _ _) (ihValue.reads_before (by decide) a rest)
  | morePairs first _ _ ihKey ihValue ihTail =>
      intro a rest
      rw [List.append_assoc, List.cons_append, List.append_assoc, List.cons_append]
      exact reads_pairList_more
        (TokenKind.ne_rightBrace_of_startsExpression (first.startsExpression _))
        (ihKey.reads_before (by decide) _ _) (ihValue.reads_before (by decide) _ _)
        (ihTail a rest)
  | noNames =>
      intro a cursor rest next
      exact reads_parameterList_nil next
  | oneName name =>
      intro a cursor rest next
      exact reads_parameterList_last next
  | @moreNames _ _ _ more _ tail ih =>
      intro a cursor rest next
      have name : Cursor.kind more = .identifier := eq_of_beq tail.startsWith
      have further : Cursor.kind (more ++ ⟨.rightParen, a⟩ :: rest) ≠ .rightParen := by
        rw [Cursor.kind_append (by rw [name]; rfl), name]
        decide
      exact reads_parameterList_more next further (ih a _ rest rfl)
  | bind _ ih =>
      intro rest ends
      exact reads_bind (ih.reads_lowest ends)
  | ret _ ih =>
      intro rest ends
      exact reads_ret (ih.reads_lowest ends)
  | evaluate inner ih =>
      intro rest ends
      have starts := inner.startsExpression rest
      refine reads_evaluate ?_ ?_ (ih.reads_lowest ends)
      all_goals
        intro keyword
        rw [keyword] at starts
        cases starts
  | noStatements => exact ⟨reads_block_nil, parse_nil⟩
  | closed head _ ihHead ihTail =>
      refine parsesAs_statements_cons head.startsStatement ihHead ihTail fun rest _ => ?_
      exact ⟨⟨by simp [Cursor.kind], rfl⟩, rfl⟩
  | @unclosed _ body _ more head tail unambiguous ihHead ihTail =>
      refine parsesAs_statements_cons head.startsStatement ihHead ihTail fun rest last => ?_
      cases body with
      | nil =>
          cases tail
          rcases last with last | rfl
          · rw [List.nil_append, Cursor.pastSemicolon, last]
            exact ⟨by decide, if_neg (by decide)⟩
          · exact ⟨by decide, rfl⟩
      | cons second body =>
          have starts : (Cursor.kind more).startsStatement = true := tail.startsWith
          rw [Cursor.pastSemicolon, Cursor.kind_append starts]
          exact ⟨TokenKind.endsExpression_of_startsStatement starts unambiguous,
            if_neg (TokenKind.ne_semicolon_of_startsStatement starts)⟩

/-! ## Completeness -/

/-- **Every spelling of a program is read as that program, without a diagnostic.** -/
theorem parse_of_spelling {program : Program} {tokens : List Token}
    (spelling : Spelling (.statements program) tokens) : parse tokens = ⟨program, []⟩ :=
  spelling.parsesAs.2

end MonkeyLang
