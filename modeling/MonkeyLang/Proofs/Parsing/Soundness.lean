import MonkeyLang.Proofs.Parsing.Completeness
import MonkeyLang.Proofs.Parsing.Isolation
import MonkeyLang.Proofs.Parsing.Justification

/-!
# The parser reads only what the grammar spells

Completeness says that every spelling of a program is read as that program. Here is
the converse: tokens that are read without a diagnostic spell the program they are
read as (`spelling_of_parse`). Nothing is skipped, read twice or moved, because a
spelling lists every token once and in its place.

Each production is shown to spell its value with the tokens it uses. Of an expression
more has to be known, because it may go on: its level has to pass under the strength
it is read under, and the token after it must not go on with the last part of it in
place of the whole (`Standing`). This is what a left operand owes to the operator
after it.
-/

set_option autoImplicit false

namespace MonkeyLang

open Reply

/-! ## What the productions use -/

/-- The tokens used are the phrase and the token that closes it. -/
def ClosedBy (close : TokenKind) (phrase : Phrase) (used : List Token) : Prop :=
  ∃ inside a, used = inside ++ [⟨close, a⟩] ∧ Spelling phrase inside

/-- The tokens spell the expression at a level that passes, and the token after them does not go on
with a part of the expression in place of the whole. -/
def Standing (weaker : Strength) (value : Expression) (used : List Token) (after : Cursor) : Prop :=
  ∃ level : Level, Spelling (.expression level value) used ∧ level.Passes weaker ∧
    ¬ level.strength < Strength.ofKind after.kind

/-- The same, where the token after them does not go on with the whole expression either. -/
def StandsWhole (weaker : Strength) (value : Expression) (used : List Token) (after : Cursor) :
    Prop :=
  Standing weaker value used after ∧ ¬ weaker < Strength.ofKind after.kind

/-- The tokens spell the statement and take in a semicolon after it, or else the token after them
cannot be taken for a part of the statement. -/
def StandsClosed (first : Statement) (used : List Token) (after : Cursor) : Prop :=
  (∃ tokens a, used = tokens ++ [⟨.semicolon, a⟩] ∧ Spelling (.statement first) tokens) ∨
    Spelling (.statement first) used ∧ after.kind ∉ TokenKind.ambiguousStarts

section Standing

variable {weaker : Strength} {value : Expression} {used : List Token} {after : Cursor}

theorem standing_tight (low : ¬ Strength.unary < weaker)
    (spelling : Spelling (.expression .tight value) used) : Standing weaker value used after := by
  refine ⟨.tight, spelling, ?_, ?_⟩
  · revert low
    cases weaker <;> decide
  · cases after.kind <;> decide

/-- An operand stands under every strength that an expression is read under. -/
theorem Standing.weaken (standing : Standing .unary value used after)
    (low : ¬ Strength.unary < weaker) : Standing weaker value used after := by
  obtain ⟨level, spelling, passes, closed⟩ := standing
  refine ⟨level, spelling, ?_, closed⟩
  revert passes low
  cases level <;> cases weaker <;> decide

theorem Standing.spelling (standing : Standing weaker value used after) :
    ∃ level, Spelling (.expression level value) used := by
  obtain ⟨level, spelling, -⟩ := standing
  exact ⟨level, spelling⟩

/-- The operand of a unary operator. -/
theorem StandsWhole.unary (operator : UnaryOperator) (stands : StandsWhole .unary value used after)
    (apart : operator = .negate → Cursor.kind used ≠ .integer) (a : String) :
    Standing .unary (.unary operator value) (⟨operator.kind, a⟩ :: used) after := by
  obtain ⟨⟨level, spelling, passes, -⟩, ends⟩ := stands
  refine ⟨.unary, .unary ?_ apart spelling, by decide, ends⟩
  revert passes
  cases level <;> decide

/-- What a call or an index comes after is tight. -/
theorem Standing.tight (standing : Standing weaker value used after)
    (applied : after.kind = .leftParen ∨ after.kind = .leftBracket) :
    Spelling (.expression .tight value) used := by
  obtain ⟨level, spelling, -, closed⟩ := standing
  cases level with
  | tight => exact spelling
  | _ => rcases applied with kind | kind <;> rw [kind] at closed <;> exact absurd (by decide) closed

/-- An operator between what stands before it and its right operand. -/
theorem Standing.binary {operator : BinaryOperator} {a : String} {rest : Cursor}
    {right : Expression} {more : List Token}
    (standing : Standing weaker value used (⟨operator.kind, a⟩ :: rest))
    (stronger : weaker < Strength.ofKind operator.kind)
    (second : StandsWhole (Strength.ofKind operator.kind) right more after) :
    Standing weaker (.binary operator value right) (used ++ ⟨operator.kind, a⟩ :: more) after := by
  obtain ⟨level, spelling, passes, closed⟩ := standing
  obtain ⟨⟨level', spelling', passes', -⟩, ends⟩ := second
  have closed : ¬ level.strength < Strength.ofKind operator.kind := closed
  refine ⟨operator.level, .binary ?_ ?_ spelling spelling', ⟨passes.1, .inl ?_⟩, ?_⟩
  · revert closed
    cases operator <;> cases level <;> decide
  · revert passes'
    cases operator <;> cases level' <;> decide
  · rwa [← operator.strength_kind]
  · rwa [← operator.strength_kind]

end Standing

theorem Cursor.kind_append_notMem_ambiguousStarts {more : List Token} {after : Cursor}
    (unambiguous : Cursor.kind (more ++ after) ∉ TokenKind.ambiguousStarts) :
    Cursor.kind more ∉ TokenKind.ambiguousStarts := by
  cases more with
  | nil => decide
  | cons token more => exact unambiguous

/-- A statement before others. -/
theorem StandsClosed.cons {first : Statement} {body : List Statement} {used more : List Token}
    {after : Cursor} (stands : StandsClosed first used (more ++ after))
    (others : Spelling (.statements body) more) :
    Spelling (.statements (first :: body)) (used ++ more) := by
  rcases stands with ⟨tokens, a, rfl, spelling⟩ | ⟨spelling, unambiguous⟩
  · rw [List.append_assoc]
    exact .closed spelling others
  · exact .unclosed spelling others (Cursor.kind_append_notMem_ambiguousStarts unambiguous)

/-- A statement around an expression, with the tokens that tell what statement it is in front. -/
theorem justifies_closeStatement {cursor start : Cursor} {reply : Reply cursor Expression}
    (form : Expression → Statement) (front : List Token)
    (justifies : reply.Justifies start (StandsWhole .lowest))
    (spells : ∀ {level : Level} {value : Expression} {tokens : List Token},
      Spelling (.expression level value) tokens →
        Spelling (.statement (form value)) (front ++ tokens)) :
    (reply.andThen fun stop _ value => closeStatement stop (form value)).Justifies start
      fun first used after => StandsClosed first (front ++ used) after := by
  refine justifies.andThen fun stop ahead value => ?_
  rw [closeStatement]
  split
  · next semicolon =>
    refine justifies_next semicolon (by decide) fun a used stands => ?_
    obtain ⟨level, spelling⟩ := stands.1.spelling
    exact .inl ⟨front ++ used, a, by rw [List.append_assoc], spells spelling⟩
  · refine justifies_succeed fun used stands => ?_
    obtain ⟨level, spelling⟩ := stands.1.spelling
    rw [List.append_nil]
    refine .inr ⟨spells spelling, fun mem => stands.2 ?_⟩
    revert mem
    cases Cursor.kind stop.next <;> decide

/-! ## Productions -/

theorem justifies_parameterNames (cursor : Cursor) :
    (parameterNames cursor).Justifies cursor.next fun names used _ =>
      names ≠ [] ∧ ClosedBy .rightParen (.names names) used := by
  rw [parameterNames]
  refine justifies_expect_andThen (by decide) fun name rest ahead next => ?_
  split
  · next comma =>
    obtain ⟨a, others, rfl⟩ := Cursor.eq_cons_of_kind comma (by decide)
    refine Justifies.cons (Justifies.map ((justifies_parameterNames _).since _) ?_)
    rintro names used after ⟨some, list, b, rfl, spelling⟩ -
    refine ⟨List.cons_ne_nil _ _, ⟨.identifier, name⟩ :: ⟨.comma, a⟩ :: list, b, rfl, ?_⟩
    cases names with
    | nil => exact absurd rfl some
    | cons second names => exact .moreNames spelling
  · refine (justifies_expect (by decide) _).map ?_
    rintro _ _ _ ⟨a, rfl⟩
    exact ⟨List.cons_ne_nil _ _, [⟨.identifier, name⟩], a, rfl, .oneName name⟩
termination_by cursor.length
decreasing_by
  have le := ahead.length_le
  simp only [Cursor.next, List.tail_cons, List.length_cons] at le ⊢
  omega

theorem justifies_parameterList (cursor : Cursor) :
    (parameterList cursor).Justifies cursor.next fun names used _ =>
      ClosedBy .rightParen (.names names) used := by
  rw [parameterList]
  split
  · next closed => exact justifies_next closed (by decide) fun a => ⟨[], a, rfl, .noNames⟩
  · intro names after reads
    obtain ⟨used, same, holds⟩ := justifies_parameterNames cursor names after reads
    exact ⟨used, same, fun numerals => (holds numerals).2⟩

/-- An expression that begins with a numeral is read only if the number fits. -/
theorem int64?_of_reads {weaker : Strength} {digits : String} {rest after : Cursor}
    {value : Expression}
    (reads : (expression weaker (⟨.integer, digits⟩ :: rest)).Reads value after) :
    ∃ number, Decimal.int64? digits.toList = some number := by
  rw [expression] at reads
  obtain ⟨stop, ahead, first, reads, -⟩ := of_reads_andThen reads
  rw [operand] at reads
  cases came : Decimal.int64? digits.toList with
  | some number => exact ⟨number, rfl⟩
  | none =>
      simp only [came] at reads
      cases reads

mutual
/-- **A statement is read from its own tokens.** -/
theorem justifies_statement (cursor : Cursor) :
    (statement cursor).Justifies cursor StandsClosed := by
  rw [statement]
  split
  · next isLet =>
    obtain ⟨a, rest, rfl⟩ := Cursor.eq_cons_of_kind isLet (by decide)
    refine Justifies.cons (justifies_expect_andThen (by decide) fun name named ahead next => ?_)
    refine justifies_expect_andThen (by decide) fun b assigned ahead' next' => ?_
    intro first after reads
    obtain ⟨used, same, holds⟩ := justifies_closeStatement (Statement.bind name)
      [⟨.letWord, a⟩, ⟨.identifier, name⟩, ⟨.assign, b⟩]
      ((justifies_expression (by decide) assigned).since _) .bind first after reads
    exact ⟨used, same, fun numerals _ => holds numerals⟩
  · next isReturn =>
    obtain ⟨a, rest, rfl⟩ := Cursor.eq_cons_of_kind isReturn (by decide)
    refine Justifies.cons ?_
    intro first after reads
    obtain ⟨used, same, holds⟩ := justifies_closeStatement Statement.ret [⟨.returnWord, a⟩]
      ((justifies_expression (by decide) rest).since _) .ret first after reads
    exact ⟨used, same, fun numerals _ => holds numerals⟩
  · exact justifies_closeStatement Statement.evaluate [] (justifies_expression (by decide) cursor)
      .evaluate
termination_by 8 * cursor.length + 5
decreasing_by all_goals grind only [→ List.IsSuffix.length_le, List.length_cons, Cursor.length_next]

theorem justifies_expression {weaker : Strength} (low : ¬ Strength.unary < weaker)
    (cursor : Cursor) : (expression weaker cursor).Justifies cursor (StandsWhole weaker) := by
  rw [expression]
  refine (justifies_operand cursor).andThen fun stop ahead left => ?_
  intro value after reads
  obtain ⟨more, same, holds⟩ := justifies_continuation low left stop value after reads
  exact ⟨more, same, fun numerals used standing => holds numerals used (standing.weaken low)⟩
termination_by 8 * cursor.length + 4
decreasing_by all_goals grind only [→ List.IsSuffix.length_le]

theorem justifies_operand (cursor : Cursor) :
    (operand cursor).Justifies cursor (Standing .unary) := by
  have low : ¬ Strength.unary < Strength.unary := by decide
  cases cursor with
  | nil =>
      rw [operand]
      exact justifies_fail _
  | cons token rest =>
      obtain ⟨kind, literal⟩ := token
      rw [operand]
      cases kind with
      | identifier => exact justifies_token fun _ => standing_tight low (.identifier literal)
      | string => exact justifies_token fun _ => standing_tight low (.string literal)
      | trueWord => exact justifies_token fun _ => standing_tight low .trueWord
      | falseWord => exact justifies_token fun _ => standing_tight low .falseWord
      | integer =>
          dsimp only
          split
          · next value reads =>
            refine justifies_token fun numeral => standing_tight low ?_
            obtain ⟨number, digits⟩ := Option.isSome_iff_exists.mp (numeral rfl)
            obtain ⟨fits, rfl⟩ := Decimal.of_int64?_of_natural? digits reads
            exact .integer digits fits
          · exact justifies_fail _
      | bang =>
          refine Justifies.since (Justifies.cons ((justifies_expression low rest).map ?_)) _
          exact fun value used after stands _ =>
            stands.unary .not (fun negate => by cases negate) literal
      | minus =>
          dsimp only
          split
          · next value negated =>
            refine Justifies.since (Justifies.cons ?_) _
            exact justifies_negative literal negated
          · next plain =>
            refine Justifies.since (Justifies.cons ?_) _
            exact justifies_negate literal plain
      | leftParen =>
          refine Justifies.since (Justifies.cons (Justifies.andThen
            (justifies_expression (by decide) rest) fun stop ahead inner => ?_)) _
          refine (justifies_expect (by decide) stop).map ?_
          rintro _ _ after ⟨a, rfl⟩ used stands -
          obtain ⟨level, spelling⟩ := stands.1.spelling
          exact standing_tight low (.parenthesized spelling)
      | ifWord =>
          refine Justifies.since (Justifies.cons ?_) _
          intro value after reads
          obtain ⟨used, same, holds⟩ := justifies_conditional literal rest value after reads
          exact ⟨used, same, fun numerals _ => standing_tight low (holds numerals)⟩
      | functionWord =>
          refine Justifies.cons ((justifies_callable _ rest).map ?_)
          rintro parts _ after ⟨list, inside, b, c, d, e, rfl, first, second⟩ -
          exact standing_tight low (.function first second)
      | macroWord =>
          refine Justifies.cons ((justifies_callable _ rest).map ?_)
          rintro parts _ after ⟨list, inside, b, c, d, e, rfl, first, second⟩ -
          exact standing_tight low (.macroLiteral first second)
      | leftBracket =>
          refine Justifies.since (Justifies.cons
            ((justifies_expressionList (by decide) rest).map ?_)) _
          rintro list _ after ⟨inside, a, rfl, spelling⟩ -
          exact standing_tight low (.array spelling)
      | leftBrace =>
          refine Justifies.since (Justifies.cons ((justifies_pairList rest).map ?_)) _
          rintro list _ after ⟨inside, a, rfl, spelling⟩ -
          exact standing_tight low (.hash spelling)
      | _ => exact justifies_fail _
termination_by 8 * cursor.length + 3
decreasing_by all_goals grind only [List.length_cons]

/-- A number with its sign, and what it goes on with. -/
theorem justifies_negative {rest : Cursor} {value : Int64} (literal : String)
    (negated : Cursor.negated? rest = some value) :
    (continuation .unary (.integer value) rest).Justifies rest fun value used after =>
      Token.IsNumeral ⟨.minus, literal⟩ → Standing .unary value (⟨.minus, literal⟩ :: used) after := by
  rw [Cursor.negated?] at negated
  split at negated
  · next integer =>
    obtain ⟨digits, more, rfl⟩ := Cursor.eq_cons_of_kind integer (by decide)
    refine Justifies.cons ?_
    intro result after reads
    obtain ⟨used, same, holds⟩ :=
      justifies_continuation (by decide) (.integer value) _ result after reads
    refine ⟨used, same, fun numerals numeral _ => ?_⟩
    obtain ⟨number, natural⟩ := Option.isSome_iff_exists.mp (numeral rfl)
    obtain ⟨fits, rfl⟩ := Decimal.of_int64?_minus natural negated
    exact (holds numerals [⟨.minus, literal⟩, ⟨.integer, digits⟩]
      (standing_tight (by decide) (.negative natural fits))).1
  · cases negated
termination_by 8 * rest.length + 3
decreasing_by all_goals grind only [List.length_cons]

/-- An operand after a minus sign begins with no numeral: one that fits would have been taken with
its sign, and any other is no operand. -/
theorem justifies_negate {rest : Cursor} (literal : String) (plain : Cursor.negated? rest = none) :
    ((expression .unary rest).map (.unary .negate)).Justifies rest fun value used after =>
      Token.IsNumeral ⟨.minus, literal⟩ → Standing .unary value (⟨.minus, literal⟩ :: used) after := by
  intro result after mapped
  obtain ⟨value, reads, rfl⟩ := of_reads_map mapped
  obtain ⟨used, same, holds⟩ := justifies_expression (by decide) rest value after reads
  refine ⟨used, same, fun numerals _ => ?_⟩
  have stands := holds numerals
  refine stands.unary .negate (fun _ integer => ?_) literal
  obtain ⟨digits, more, rfl⟩ := Cursor.eq_cons_of_kind integer (by decide)
  obtain ⟨number, natural⟩ :=
    Option.isSome_iff_exists.mp (numerals ⟨.integer, digits⟩ List.mem_cons_self rfl)
  subst same
  obtain ⟨read, came⟩ := int64?_of_reads reads
  obtain ⟨fits, -⟩ := Decimal.of_int64?_of_natural? natural came
  have negated : Cursor.negated? (⟨.integer, digits⟩ :: (more ++ after)) = some _ :=
    Decimal.int64?_minus_of_natural? natural (Nat.le_of_lt fits)
  rw [List.cons_append, negated] at plain
  cases plain
termination_by 8 * rest.length + 5
decreasing_by all_goals grind only [List.length_cons]

theorem justifies_conditional (literal : String) (cursor : Cursor) :
    (conditional cursor).Justifies cursor fun value used _ =>
      Spelling (.expression .tight value) (⟨.ifWord, literal⟩ :: used) := by
  rw [conditional]
  refine (justifies_expression (by decide) cursor).andThen fun tested ahead condition => ?_
  refine justifies_expect_andThen (by decide) fun b opened ahead' next => ?_
  refine ((justifies_block opened).since _).andThen fun closed further consequence => ?_
  split
  · next hasElse =>
    obtain ⟨d, same⟩ := Cursor.eq_cons_next_of_kind hasElse (by decide)
    refine Justifies.since (Justifies.cons_of_eq same ?_) _
    refine justifies_expect_andThen (by decide) fun e reopened further' next' => ?_
    refine Justifies.since ((justifies_block reopened).map ?_) _
    rintro alternative _ after ⟨other, f, rfl, third⟩ _ ⟨inside, c, rfl, second⟩ test stands
    obtain ⟨level, first⟩ := stands.1.spelling
    have spelling : Spelling _ (⟨.ifWord, literal⟩ :: (test ++ ⟨.leftBrace, b⟩ :: (inside ++
        ⟨.rightBrace, c⟩ :: ⟨.elseWord, d⟩ :: ⟨.leftBrace, e⟩ :: (other ++ [⟨.rightBrace, f⟩])))) :=
      .conditionalElse first second third
    simpa using spelling
  · refine justifies_succeed ?_
    rintro _ ⟨inside, c, rfl, second⟩ test stands
    obtain ⟨level, first⟩ := stands.1.spelling
    rw [List.append_nil]
    exact .conditional first second
termination_by 8 * cursor.length + 7
decreasing_by all_goals grind only [→ List.IsSuffix.length_le, List.length_cons, Cursor.length_next]

theorem justifies_callable (token : Token) (rest : Cursor) :
    (callable token rest).Justifies rest fun parts used _ =>
      ∃ list inside b c d e, used = ⟨.leftParen, b⟩ :: (list ++ ⟨.rightParen, c⟩ ::
          ⟨.leftBrace, d⟩ :: (inside ++ [⟨.rightBrace, e⟩])) ∧
        Spelling (.names parts.1) list ∧ Spelling (.statements parts.2) inside := by
  rw [callable]
  refine @justifies_expect_andThen _ _ (token :: rest) _ _ (by decide) fun b listed ahead next => ?_
  refine (justifies_parameterList _).andThen fun headed ahead' parameters => ?_
  refine justifies_expect_andThen (by decide) fun d opened further next' => ?_
  refine Justifies.since ((justifies_block opened).map ?_) _
  rintro body _ after ⟨inside, e, rfl, second⟩ _ ⟨list, c, rfl, first⟩
  exact ⟨list, inside, b, c, d, e, by simp, first, second⟩
termination_by 8 * (token :: rest).length
decreasing_by
  all_goals grind only [→ List.IsSuffix.length_le, Cursor.length_next, List.length_cons]

theorem justifies_continuation {weaker : Strength} (low : ¬ Strength.unary < weaker)
    (left : Expression) (cursor : Cursor) :
    (continuation weaker left cursor).Justifies cursor.next fun value more after =>
      ∀ used, Standing weaker left used cursor.next →
        StandsWhole weaker value (used ++ more) after := by
  rw [continuation]
  split
  · next continues =>
    have shorter := Cursor.length_next_lt_of_strength continues.2
    refine Justifies.since (Justifies.andThen
      (justifies_extension low left cursor.next continues.2) fun stop ahead extended => ?_) _
    intro value after reads
    obtain ⟨more, same, holds⟩ := justifies_continuation low extended stop value after reads
    refine ⟨more, same, fun numerals added extends' used standing => ?_⟩
    rw [← List.append_assoc]
    exact holds numerals (used ++ added) (extends' used standing)
  · next ends =>
    refine justifies_succeed fun used standing => ?_
    rw [List.append_nil]
    exact ⟨standing, fun stronger => ends (Cursor.continues_iff.mpr stronger)⟩
termination_by 8 * cursor.length + 2
decreasing_by all_goals grind only [→ List.IsSuffix.length_le]

theorem justifies_extension {weaker : Strength} (low : ¬ Strength.unary < weaker)
    (left : Expression) (cursor : Cursor) (stronger : weaker < Strength.ofKind cursor.kind) :
    (extension left cursor).Justifies cursor fun value more after =>
      ∀ used, Standing weaker left used cursor → Standing weaker value (used ++ more) after := by
  rw [extension.eq_def]
  split
  · exact justifies_fail _
  · next kind rest =>
    obtain ⟨kind, a⟩ := kind
    split
    · next isCall =>
      have isCall : kind = .leftParen := isCall
      subst isCall
      refine Justifies.since (Justifies.cons
        ((justifies_expressionList (by decide) rest).map ?_)) _
      rintro list _ after ⟨inside, b, rfl, spelling⟩ - used standing
      exact standing_tight low (.call (standing.tight (.inl rfl)) spelling)
    · next isIndex =>
      have isIndex : kind = .leftBracket := isIndex
      subst isIndex
      refine Justifies.since (Justifies.cons (Justifies.andThen
        (justifies_expression (by decide) rest) fun stop ahead position => ?_)) _
      refine (justifies_expect (by decide) stop).map ?_
      rintro _ _ after ⟨b, rfl⟩ inside stands - used standing
      obtain ⟨level, spelling⟩ := stands.1.spelling
      exact standing_tight low (.index (standing.tight (.inr rfl)) spelling)
    · split
      · next operator ofKind =>
        have same : kind = operator.kind := BinaryOperator.kind_of_ofKind? ofKind
        subst same
        have high : ¬ Strength.unary < Strength.ofKind operator.kind := by
          cases operator <;> decide
        refine Justifies.since (Justifies.cons ((justifies_expression high rest).map ?_)) _
        intro right more after second _ used standing
        exact standing.binary stronger second
      · exact justifies_fail _
termination_by 8 * cursor.length + 2
decreasing_by all_goals grind only [List.length_cons]

theorem justifies_expressionList {close : TokenKind} (more : close ≠ .endOfInput)
    (cursor : Cursor) :
    (expressionList close cursor).Justifies cursor fun list used _ =>
      ClosedBy close (.expressions list) used := by
  rw [expressionList]
  split
  · next closed =>
    obtain ⟨a, rest, rfl⟩ := Cursor.eq_cons_of_kind closed more
    exact justifies_token fun _ => ⟨[], a, rfl, .noExpressions⟩
  · intro list after reads
    obtain ⟨used, same, holds⟩ := justifies_expressionItems more cursor list after reads
    exact ⟨used, same, fun numerals => (holds numerals).2⟩
termination_by 8 * cursor.length + 6
decreasing_by all_goals omega

theorem justifies_expressionItems {close : TokenKind} (more : close ≠ .endOfInput)
    (cursor : Cursor) :
    (expressionItems close cursor).Justifies cursor fun list used _ =>
      list ≠ [] ∧ ClosedBy close (.expressions list) used := by
  rw [expressionItems]
  refine (justifies_expression (by decide) cursor).andThen fun stop ahead item => ?_
  split
  · next comma =>
    obtain ⟨a, same⟩ := Cursor.eq_cons_next_of_kind comma (by decide)
    refine Justifies.since (Justifies.cons_of_eq same
      ((justifies_expressionItems more stop.next.next).map ?_)) _
    rintro list _ after ⟨some, inside, b, rfl, others⟩ used stands
    obtain ⟨level, spelling⟩ := stands.1.spelling
    refine ⟨List.cons_ne_nil _ _, used ++ ⟨.comma, a⟩ :: inside, b, by simp, ?_⟩
    cases list with
    | nil => exact absurd rfl some
    | cons second list => exact .moreExpressions spelling others
  · refine (justifies_expect more stop).map ?_
    rintro _ _ after ⟨b, rfl⟩ used stands
    obtain ⟨level, spelling⟩ := stands.1.spelling
    exact ⟨List.cons_ne_nil _ _, used, b, rfl, .oneExpression spelling⟩
termination_by 8 * cursor.length + 5
decreasing_by
  all_goals
    grind only [→ List.IsSuffix.length_le, Cursor.length_next, → Cursor.length_next_lt_of_peek]

theorem justifies_pairList (cursor : Cursor) :
    (pairList cursor).Justifies cursor fun list used _ =>
      ClosedBy .rightBrace (.pairs list) used := by
  rw [pairList]
  split
  · next closed =>
    obtain ⟨a, rest, rfl⟩ := Cursor.eq_cons_of_kind closed (by decide)
    exact justifies_token fun _ => ⟨[], a, rfl, .noPairs⟩
  · refine (justifies_expression (by decide) cursor).andThen fun keyed ahead key => ?_
    refine justifies_expect_andThen (by decide) fun a colon ahead' next => ?_
    refine ((justifies_expression (by decide) colon).since _).andThen fun stop further value => ?_
    split
    · next closed =>
      refine justifies_next closed (by decide) fun c after' second before first => ?_
      obtain ⟨level, first⟩ := first.1.spelling
      obtain ⟨level', second⟩ := second.1.spelling
      exact ⟨before ++ ⟨.colon, a⟩ :: after', c, by simp, .lastPair first second⟩
    · split
      · next comma =>
        obtain ⟨b, same⟩ := Cursor.eq_cons_next_of_kind comma (by decide)
        refine Justifies.since (Justifies.cons_of_eq same
          ((justifies_pairList stop.next.next).map ?_)) _
        rintro list _ after ⟨inside, c, rfl, others⟩ after' second before first
        obtain ⟨level, first⟩ := first.1.spelling
        obtain ⟨level', second⟩ := second.1.spelling
        exact ⟨before ++ ⟨.colon, a⟩ :: (after' ++ ⟨.comma, b⟩ :: inside), c, by simp,
          .morePairs first second others⟩
      · exact justifies_fail _
termination_by 8 * cursor.length + 5
decreasing_by
  all_goals
    grind only [→ List.IsSuffix.length_le, Cursor.length_next, List.length_cons,
      → Cursor.length_next_lt_of_peek]

theorem justifies_block (cursor : Cursor) :
    (block cursor).Justifies cursor fun body used _ =>
      ClosedBy .rightBrace (.statements body) used := by
  rw [block]
  split
  · next closed =>
    obtain ⟨a, rest, rfl⟩ := Cursor.eq_cons_of_kind closed (by decide)
    exact justifies_token fun _ => ⟨[], a, rfl, .noStatements⟩
  · split
    · exact justifies_fail _
    · next more =>
      have shorter := Cursor.length_next_lt more
      refine (justifies_statement cursor).orSkip fun stop ahead first => ?_
      refine Justifies.since ?_ _
      intro _ after mapped
      obtain ⟨body, reads, rfl⟩ := of_reads_map mapped
      obtain ⟨more, same, holds⟩ := justifies_block stop.next body after reads
      refine ⟨more, same, fun numerals used stands => ?_⟩
      obtain ⟨inside, a, rfl, others⟩ := holds numerals
      rw [same, List.append_assoc] at stands
      exact ⟨used ++ inside, a, by simp, stands.cons others⟩
termination_by 8 * cursor.length + 6
decreasing_by
  all_goals grind only [→ List.IsSuffix.length_le, Cursor.length_next, → Cursor.length_next_lt]
end

/-! ## Programs -/

/-- **What is read without a diagnostic is spelled by the tokens up to the end of the input.** -/
theorem spelling_of_parse {tokens : List Token} (numerals : Numerals tokens)
    (clean : (parse tokens).diagnostics = []) :
    ∃ used after, tokens = used ++ after ∧ Cursor.kind after = .endOfInput ∧
      Spelling (.statements (parse tokens).program) used := by
  by_cases ended : Cursor.kind tokens = .endOfInput
  · refine ⟨[], tokens, rfl, ended, ?_⟩
    rw [parse, dif_pos ended]
    exact .noStatements
  · obtain ⟨first, following, reads, suffix, shorter, parsed⟩ := reads_of_parse ended clean
    obtain ⟨used, rfl, stands⟩ := justifies_statement tokens first following reads
    rw [numerals_append] at numerals
    rw [parsed] at clean ⊢
    obtain ⟨more, after, same, last, others⟩ := spelling_of_parse numerals.2 clean
    have stands := stands numerals.1
    rw [same] at stands
    exact ⟨used ++ more, after, by rw [same, List.append_assoc], last, stands.cons others⟩
termination_by tokens.length

end MonkeyLang
