import MonkeyLang.Proofs.Parsing.Locality

/-!
# Statements cut off by a boundary

A semicolon, a closing brace and the end of the input are boundaries: no
expression goes on with one of them. Tokens without an opening brace open no
block, so what a production makes of them before a boundary is decided by these
tokens (`DecidedBy`): either it succeeds among them with one value, whatever the
boundary and whatever stands after it, or it fails among them or on the
boundary, with a cause in which at most the kind of the boundary is named.
Nothing is recorded on the way.
-/

set_option autoImplicit false

namespace MonkeyLang

/-- The kinds of tokens at which a statement ends at the latest. -/
def TokenKind.boundaries : List TokenKind :=
  [.semicolon, .rightBrace, .endOfInput]

/-- No block and no hash begins among these tokens. -/
def Unbraced (used : List Token) : Prop :=
  ∀ token ∈ used, token.kind ≠ .leftBrace

theorem Unbraced.of_suffix {used left : List Token} (unbraced : Unbraced used)
    (suffix : left <:+ used) : Unbraced left :=
  fun token mem => unbraced token (suffix.mem mem)

/-- The production succeeds among these tokens before every boundary, and always in the same way. -/
def SucceedsBy {α : Type} (production : Production α) (used : List Token) (value : α)
    (left : List Token) : Prop :=
  left ≠ [] ∧ ∀ rest : Cursor, rest.kind ∈ TokenKind.boundaries →
    (production (used ++ rest)).parts = (.ok value, [], left ++ rest)

/-- The production fails on these tokens before every boundary, and the kind of the boundary decides
the cause. -/
def FailsBy {α : Type} (production : Production α) (used : List Token)
    (cause : TokenKind → Diagnostic) (left : List Token) : Prop :=
  ∀ rest : Cursor, rest.kind ∈ TokenKind.boundaries →
    (production (used ++ rest)).parts = (.error (cause rest.kind), [], left ++ rest)

/-- Whether the production succeeds does not depend on the boundary after these tokens. -/
def DecidedBy {α : Type} (production : Production α) (used : List Token) : Prop :=
  (∃ value left, SucceedsBy production used value left) ∨
    ∃ cause left, FailsBy production used cause left

section Rules

variable {α β : Type} {production : Production α} {used left : List Token}

theorem SucceedsBy.suffix {value : α} (succeeds : SucceedsBy production used value left) :
    left <:+ used := by
  have parts := succeeds.2 [] (by decide)
  rw [List.append_nil used, List.append_nil left] at parts
  simp only [Reply.parts, Prod.mk.injEq] at parts
  exact parts.2.2 ▸ (production used).forward

theorem FailsBy.suffix {cause : TokenKind → Diagnostic}
    (fails : FailsBy production used cause left) : left <:+ used := by
  have parts := fails [] (by decide)
  rw [List.append_nil used, List.append_nil left] at parts
  simp only [Reply.parts, Prod.mk.injEq] at parts
  exact parts.2.2 ▸ (production used).forward

/-- Productions that give the same replies are decided alike. -/
theorem DecidedBy.congr {other : Production α}
    (same : ∀ rest : Cursor, rest.kind ∈ TokenKind.boundaries →
      (production (used ++ rest)).parts = (other (used ++ rest)).parts)
    (decided : DecidedBy other used) : DecidedBy production used := by
  rcases decided with ⟨value, left, some_left, succeeds⟩ | ⟨cause, left, fails⟩
  · exact .inl ⟨value, left, some_left, fun rest ends => (same rest ends).trans (succeeds rest ends)⟩
  · exact .inr ⟨cause, left, fun rest ends => (same rest ends).trans (fails rest ends)⟩

theorem DecidedBy.of_eq (other : Production α)
    (same : ∀ cursor : Cursor, production cursor = other cursor)
    (decided : DecidedBy other used) : DecidedBy production used :=
  decided.congr fun rest _ => by rw [same]

theorem decidedBy_succeed (value : α) (some_used : used ≠ []) :
    DecidedBy (fun cursor => .succeed cursor value) used :=
  .inl ⟨value, used, some_used, fun _ _ => rfl⟩

theorem decidedBy_fail (cause : Diagnostic) :
    DecidedBy (fun cursor => (.fail cursor cause : Reply cursor α)) used :=
  .inr ⟨fun _ => cause, used, fun _ _ => rfl⟩

theorem DecidedBy.map (decided : DecidedBy production used) (f : α → β) :
    DecidedBy (fun cursor => (production cursor).map f) used := by
  rcases decided with ⟨value, left, some_left, succeeds⟩ | ⟨cause, left, fails⟩
  · refine .inl ⟨f value, left, some_left, fun rest ends => ?_⟩
    have parts := succeeds rest ends
    simp only [Reply.parts, Prod.mk.injEq] at parts
    simp only [Reply.parts, Reply.map, parts, Except.map]
  · refine .inr ⟨cause, left, fun rest ends => ?_⟩
    have parts := fails rest ends
    simp only [Reply.parts, Prod.mk.injEq] at parts
    simp only [Reply.parts, Reply.map, parts, Except.map]

/-- Nothing goes on after a failure. -/
theorem FailsBy.andThen {cause : TokenKind → Diagnostic} {following : α → Production β}
    (fails : FailsBy production used cause left) :
    FailsBy (fun cursor => (production cursor).andThen fun stop _ value => following value stop)
      used cause left := by
  intro rest ends
  have parts := fails rest ends
  simp only [Reply.parts, Prod.mk.injEq] at parts
  simp only [Reply.parts, Reply.andThen, parts]

/-- Going on among the tokens that the first production left. -/
theorem DecidedBy.andThen {following : α → Production β} (first : DecidedBy production used)
    (further : ∀ left value, left ≠ [] → left <:+ used → DecidedBy (following value) left) :
    DecidedBy (fun cursor => (production cursor).andThen fun stop _ value => following value stop)
      used := by
  rcases first with ⟨value, left, some_left, succeeds⟩ | ⟨cause, left, fails⟩
  · have goesOn : ∀ rest : Cursor, rest.kind ∈ TokenKind.boundaries →
        ((production (used ++ rest)).andThen fun stop _ value => following value stop).parts =
          (following value (left ++ rest)).parts := by
      intro rest ends
      have parts := succeeds rest ends
      simp only [Reply.parts, Prod.mk.injEq] at parts
      simp only [Reply.parts, Reply.andThen, parts.1, parts.2.1, List.nil_append]
      rw [parts.2.2]
    have suffix := SucceedsBy.suffix ⟨some_left, succeeds⟩
    rcases further left value some_left suffix with
      ⟨value', left', some_left', succeeds'⟩ | ⟨cause, left', fails⟩
    · exact .inl ⟨value', left', some_left', fun rest ends =>
        (goesOn rest ends).trans (succeeds' rest ends)⟩
    · exact .inr ⟨cause, left', fun rest ends => (goesOn rest ends).trans (fails rest ends)⟩
  · exact .inr ⟨cause, left, fails.andThen⟩

/-- Entering one token further on. -/
theorem DecidedBy.cons_advance {token : Token} (further : DecidedBy production used) :
    DecidedBy (fun cursor => (production cursor.next).since cursor.next_suffix)
      (token :: used) :=
  further

theorem DecidedBy.of_cons (branch : Production α) {token : Token}
    (same : ∀ rest, production (token :: rest) = branch (token :: rest))
    (decided : DecidedBy branch (token :: used)) : DecidedBy production (token :: used) :=
  decided.congr fun rest _ => by rw [List.cons_append, same]

/-- A production that goes one token further on as soon as it sees this one. -/
theorem DecidedBy.of_cons_advance (branch : Production α) {token : Token}
    (same : ∀ rest, production (token :: rest) = (branch rest).since (List.suffix_cons token rest))
    (decided : DecidedBy branch used) : DecidedBy production (token :: used) :=
  .of_cons (fun cursor => (branch cursor.next).since cursor.next_suffix) same
    decided.cons_advance

end Rules

/-! ## Steps without recursion -/

variable {used : List Token}

/-- A token that is not a boundary is asked for. -/
theorem decidedBy_expect {kind : TokenKind} (asked : kind ∉ TokenKind.boundaries)
    (some_used : used ≠ []) : DecidedBy (expect kind) used := by
  match used, some_used with
  | [token], _ =>
      refine .inr ⟨.unexpected kind, [token], fun rest ends => ?_⟩
      have other : Cursor.peek ([token] ++ rest) ≠ kind := fun same => asked (same ▸ ends)
      rw [expect, if_neg other]
      rfl
  | token :: second :: more, _ =>
      by_cases found : second.kind = kind
      · refine .inl ⟨(), second :: more, List.cons_ne_nil _ _, fun rest _ => ?_⟩
        have peek : Cursor.peek (token :: second :: more ++ rest) = kind := found
        rw [expect, if_pos peek]
        rfl
      · refine .inr ⟨fun _ => .unexpected kind second.kind, token :: second :: more,
          fun rest _ => ?_⟩
        have peek : Cursor.peek (token :: second :: more ++ rest) ≠ kind := found
        rw [expect, if_neg peek]
        rfl

/-- A production that is decided by the kind of the token after the current one, where no boundary
passes the test. -/
theorem DecidedBy.ite_peek {α : Type} (test : TokenKind → Prop) [DecidablePred test]
    {yes no : Production α} (some_used : used ≠ [])
    (ends : ∀ kind ∈ TokenKind.boundaries, ¬ test kind)
    (passed : ∀ token second more, used = token :: second :: more → test second.kind →
      DecidedBy yes used)
    (failed : DecidedBy no used) :
    DecidedBy (fun cursor => if test cursor.peek then yes cursor else no cursor) used := by
  match used, some_used with
  | [token], _ =>
      refine failed.congr fun rest boundary => ?_
      have other : ¬ test (Cursor.peek ([token] ++ rest)) := ends _ boundary
      simp only [if_neg other]
  | token :: second :: more, _ =>
      by_cases passes : test second.kind
      · refine (passed token second more rfl passes).congr fun rest _ => ?_
        have peek : test (Cursor.peek (token :: second :: more ++ rest)) := passes
        simp only [if_pos peek]
      · refine failed.congr fun rest _ => ?_
        have peek : ¬ test (Cursor.peek (token :: second :: more ++ rest)) := passes
        simp only [if_neg peek]

theorem decidedBy_parameterNames {used : List Token} (some_used : used ≠ []) :
    DecidedBy parameterNames used := by
  refine DecidedBy.of_eq (fun cursor => (expect .identifier cursor).andThen
    fun stop _ _ => if stop.peek = .comma then
        ((parameterNames stop.next).since stop.next_suffix).map (stop.literal :: ·)
      else
        (expect .rightParen stop).map fun _ => [stop.literal]) ?_ ?_
  · intro cursor
    rw [parameterNames]
    rfl
  refine (decidedBy_expect (by decide) some_used).andThen fun left _ some_left suffix => ?_
  obtain ⟨name, more, rfl⟩ := List.exists_cons_of_ne_nil some_left
  refine DecidedBy.of_cons (fun start => if start.peek = .comma then
      ((parameterNames start.next).since start.next_suffix).map (name.literal :: ·)
    else
      (expect .rightParen start).map fun _ => [name.literal]) (fun _ => rfl) ?_
  refine DecidedBy.ite_peek (· = .comma) some_left (by decide) ?_
    ((decidedBy_expect (by decide) some_left).map _)
  rintro token second rest ⟨⟩ _
  have _shorter := suffix.length_le
  exact (decidedBy_parameterNames (List.cons_ne_nil second rest)).cons_advance.map _
termination_by used.length
decreasing_by simp only [List.length_cons] at *; omega

theorem decidedBy_parameterList (some_used : used ≠ []) : DecidedBy parameterList used := by
  refine DecidedBy.ite_peek (· = .rightParen) some_used (by decide) ?_
    (decidedBy_parameterNames some_used)
  rintro token second more rfl _
  exact (decidedBy_succeed [] (List.cons_ne_nil _ _)).cons_advance

/-- No body begins among tokens without an opening brace. -/
theorem failsBy_leftBrace (some_used : used ≠ []) (unbraced : Unbraced used) :
    ∃ cause, FailsBy (expect .leftBrace) used cause used := by
  match used, some_used with
  | [token], _ =>
      refine ⟨.unexpected .leftBrace, fun rest ends => ?_⟩
      have other : Cursor.peek ([token] ++ rest) ≠ .leftBrace := by
        intro same
        have brace : rest.kind = .leftBrace := same
        rw [brace] at ends
        revert ends
        decide
      rw [expect, if_neg other]
      rfl
  | token :: second :: more, _ =>
      refine ⟨fun _ => .unexpected .leftBrace second.kind, fun rest _ => ?_⟩
      have peek : Cursor.peek (token :: second :: more ++ rest) ≠ .leftBrace :=
        unbraced second (by simp)
      rw [expect, if_neg peek]
      rfl

/-! ## Expressions -/

/-- A boundary is no operand. -/
theorem parts_operand_of_boundary {rest : Cursor} (ends : rest.kind ∈ TokenKind.boundaries) :
    (operand rest).parts = (.error (.noOperand rest.kind), [], rest) := by
  cases rest with
  | nil =>
      rw [operand]
      rfl
  | cons token rest =>
      obtain ⟨kind, literal⟩ := token
      simp only [Cursor.kind, TokenKind.boundaries, List.mem_cons, List.not_mem_nil, or_false]
        at ends
      rcases ends with rfl | rfl | rfl <;> rw [operand] <;> rfl

mutual
theorem decidedBy_expression (weaker : Strength) {used : List Token} (unbraced : Unbraced used) :
    DecidedBy (expression weaker) used := by
  refine DecidedBy.of_eq _ (expression.eq_1 weaker) ?_
  refine (decidedBy_operand unbraced).andThen fun left value some_left suffix => ?_
  exact decidedBy_continuation weaker value some_left (unbraced.of_suffix suffix)
termination_by 8 * used.length + 4
decreasing_by all_goals grind only [→ List.IsSuffix.length_le]

theorem decidedBy_operand {used : List Token} (unbraced : Unbraced used) :
    DecidedBy operand used := by
  cases used with
  | nil =>
      refine .inr ⟨.noOperand, [], fun rest ends => ?_⟩
      exact parts_operand_of_boundary ends
  | cons token used =>
      obtain ⟨kind, literal⟩ := token
      have some_used : (⟨kind, literal⟩ :: used : List Token) ≠ [] := List.cons_ne_nil _ _
      have inner : Unbraced used := unbraced.of_suffix (List.suffix_cons _ _)
      cases kind with
      | identifier =>
          exact .of_cons _ (fun _ => by rw [operand])
            (decidedBy_succeed (.identifier literal) some_used)
      | integer =>
          cases numeral : Decimal.int64? literal.toList with
          | none =>
              exact .of_cons _ (fun _ => by rw [operand]; simp only [numeral])
                (decidedBy_fail (.integerOutOfRange literal))
          | some value =>
              exact .of_cons _ (fun _ => by rw [operand]; simp only [numeral])
                (decidedBy_succeed (.integer value) some_used)
      | string =>
          exact .of_cons _ (fun _ => by rw [operand]) (decidedBy_succeed (.string literal) some_used)
      | trueWord =>
          exact .of_cons _ (fun _ => by rw [operand]) (decidedBy_succeed (.boolean true) some_used)
      | falseWord =>
          exact .of_cons _ (fun _ => by rw [operand]) (decidedBy_succeed (.boolean false) some_used)
      | bang =>
          exact .of_cons_advance _ (fun _ => by rw [operand])
            ((decidedBy_expression .unary inner).map (.unary .not))
      | minus =>
          refine .of_cons_advance _ (fun _ => operand_minus _ _) ?_
          -- Whether a numeral follows is seen in these tokens: no boundary is one.
          have same : ∀ rest : Cursor, rest.kind ∈ TokenKind.boundaries →
              Cursor.negated? (used ++ rest) = Cursor.negated? used := by
            intro rest ends
            cases used with
            | cons token more => rfl
            | nil =>
                refine if_neg fun integer => ?_
                have numeral : rest.kind = .integer := integer
                rw [numeral] at ends
                revert ends
                decide
          cases negated : Cursor.negated? used with
          | some value =>
              have some_inner : used ≠ [] := by
                rintro rfl
                cases negated
              refine (decidedBy_continuation .unary (.integer value) some_inner inner).congr ?_
              intro rest ends
              rw [operandAfterMinus, same rest ends, negated]
          | none =>
              refine ((decidedBy_expression .unary inner).map (.unary .negate)).congr ?_
              intro rest ends
              rw [operandAfterMinus, same rest ends, negated]
      | leftParen =>
          refine .of_cons_advance (fun start => (expression .lowest start).andThen
            fun stop _ inner => (expect .rightParen stop).map fun _ => inner)
            (fun _ => by rw [operand]) ?_
          exact (decidedBy_expression .lowest inner).andThen fun left _ some_left _ =>
            (decidedBy_expect (by decide) some_left).map _
      | ifWord =>
          exact .of_cons_advance _ (fun _ => by rw [operand]) (decidedBy_conditional inner)
      | functionWord =>
          exact .of_cons (fun cursor => (callableAt cursor).map fun parts =>
              .function parts.1 parts.2) (fun _ => by rw [operand, callable]; rfl)
            ((decidedBy_callableAt some_used unbraced).map _)
      | macroWord =>
          exact .of_cons (fun cursor => (callableAt cursor).map fun parts =>
              .macroLiteral parts.1 parts.2) (fun _ => by rw [operand, callable]; rfl)
            ((decidedBy_callableAt some_used unbraced).map _)
      | leftBracket =>
          exact .of_cons_advance _ (fun _ => by rw [operand])
            ((decidedBy_expressionList (by decide) inner).map .array)
      | leftBrace => exact absurd rfl (unbraced _ List.mem_cons_self)
      | _ => exact .of_cons _ (fun _ => by rw [operand]) (decidedBy_fail _)
termination_by 8 * used.length + 3
decreasing_by all_goals grind only [List.length_cons]

theorem decidedBy_conditional {used : List Token} (unbraced : Unbraced used) :
    DecidedBy conditional used := by
  refine DecidedBy.of_eq _ conditional.eq_1 ?_
  refine (decidedBy_expression .lowest unbraced).andThen fun left condition some_left suffix => ?_
  obtain ⟨cause, fails⟩ := failsBy_leftBrace some_left (unbraced.of_suffix suffix)
  exact .inr ⟨cause, left, fails.andThen⟩
termination_by 8 * used.length + 7
decreasing_by all_goals omega

theorem decidedBy_callableAt {used : List Token} (some_used : used ≠ [])
    (unbraced : Unbraced used) : DecidedBy callableAt used := by
  refine (decidedBy_expect (by decide) some_used).andThen fun listed _ some_listed suffix => ?_
  refine (decidedBy_parameterList some_listed).andThen fun headed parameters some_headed more => ?_
  obtain ⟨cause, fails⟩ :=
    failsBy_leftBrace some_headed (unbraced.of_suffix (more.trans suffix))
  exact .inr ⟨cause, headed, fails.andThen⟩

theorem decidedBy_continuation (weaker : Strength) (value : Expression) {used : List Token}
    (some_used : used ≠ []) (unbraced : Unbraced used) :
    DecidedBy (continuation weaker value) used := by
  refine DecidedBy.of_eq (fun cursor =>
    if weaker < Strength.ofKind cursor.peek then
      ((extension value cursor.next).andThen fun stop _ extended =>
        continuation weaker extended stop).since cursor.next_suffix
    else
      .succeed cursor value) ?_ ?_
  · intro cursor
    rw [continuation]
    simp only [Cursor.continues_iff]
    rfl
  refine DecidedBy.ite_peek (fun kind => weaker < Strength.ofKind kind) some_used ?_ ?_
    (decidedBy_succeed value some_used)
  · intro kind ends
    have weakest : Strength.ofKind kind = .lowest := by
      revert ends
      cases kind <;> decide
    rw [weakest]
    exact weaker.not_lt_lowest
  · rintro token second more rfl stronger
    have further : DecidedBy (fun start => (extension value start).andThen
        fun stop _ extended => continuation weaker extended stop) (second :: more) :=
      (decidedBy_extension value (unbraced.of_suffix (List.suffix_cons _ _))).andThen
        fun left extended some_left suffix =>
          decidedBy_continuation weaker extended some_left
            (unbraced.of_suffix (suffix.trans (List.suffix_cons _ _)))
    exact further.cons_advance
termination_by 8 * used.length + 2
decreasing_by all_goals grind only [→ List.IsSuffix.length_le, List.length_cons]

theorem decidedBy_extension (left : Expression) {token : Token} {used : List Token}
    (unbraced : Unbraced (token :: used)) : DecidedBy (extension left) (token :: used) := by
  obtain ⟨kind, literal⟩ := token
  have inner : Unbraced used := unbraced.of_suffix (List.suffix_cons _ _)
  have binary : ∀ operator : BinaryOperator, DecidedBy (fun start =>
      (expression (Strength.ofKind operator.kind) start).map (Expression.binary operator left))
        used :=
    fun operator => (decidedBy_expression _ inner).map _
  cases kind with
  | leftParen =>
      exact .of_cons_advance _ (fun _ => by rw [extension])
        ((decidedBy_expressionList (by decide) inner).map (.call left))
  | leftBracket =>
      refine .of_cons_advance (fun start => (expression .lowest start).andThen
        fun stop _ position => (expect .rightBracket stop).map fun _ => .index left position)
        (fun _ => by rw [extension]) ?_
      exact (decidedBy_expression .lowest inner).andThen fun stop position some_left _ =>
        (decidedBy_expect (by decide) some_left).map _
  | plus => exact .of_cons_advance _ (fun _ => by rw [extension]; rfl) (binary .add)
  | minus => exact .of_cons_advance _ (fun _ => by rw [extension]; rfl) (binary .subtract)
  | asterisk => exact .of_cons_advance _ (fun _ => by rw [extension]; rfl) (binary .multiply)
  | slash => exact .of_cons_advance _ (fun _ => by rw [extension]; rfl) (binary .divide)
  | less => exact .of_cons_advance _ (fun _ => by rw [extension]; rfl) (binary .less)
  | greater => exact .of_cons_advance _ (fun _ => by rw [extension]; rfl) (binary .greater)
  | equal => exact .of_cons_advance _ (fun _ => by rw [extension]; rfl) (binary .equal)
  | notEqual => exact .of_cons_advance _ (fun _ => by rw [extension]; rfl) (binary .notEqual)
  | _ => exact .of_cons _ (fun _ => by rw [extension]; rfl) (decidedBy_fail _)
termination_by 8 * (token :: used).length + 2
decreasing_by all_goals grind only [List.length_cons]

theorem decidedBy_expressionList {close : TokenKind} (asked : close ∉ TokenKind.boundaries)
    {used : List Token} (unbraced : Unbraced used) : DecidedBy (expressionList close) used := by
  by_cases closed : ∃ token more, used = token :: more ∧ token.kind = close
  · obtain ⟨token, more, rfl, same⟩ := closed
    refine (decidedBy_succeed [] (List.cons_ne_nil token more)).congr fun rest _ => ?_
    have here : Cursor.kind (token :: more ++ rest) = close := same
    rw [expressionList, if_pos here]
  · refine (decidedBy_expressionItems asked unbraced).congr fun rest ends => ?_
    have other : Cursor.kind (used ++ rest) ≠ close := by
      intro same
      cases used with
      | nil => exact asked (same ▸ ends)
      | cons token more => exact closed ⟨token, more, rfl, same⟩
    rw [expressionList, if_neg other]
termination_by 8 * used.length + 6

theorem decidedBy_expressionItems {close : TokenKind} (asked : close ∉ TokenKind.boundaries)
    {used : List Token} (unbraced : Unbraced used) : DecidedBy (expressionItems close) used := by
  refine DecidedBy.of_eq _ (expressionItems.eq_1 close) ?_
  refine (decidedBy_expression .lowest unbraced).andThen fun left item some_left suffix => ?_
  refine DecidedBy.ite_peek (· = .comma) some_left (by decide) ?_
    ((decidedBy_expect asked some_left).map _)
  rintro token second more rfl _
  have ahead : more <:+ used :=
    ((List.suffix_cons _ _).trans (List.suffix_cons _ _)).trans suffix
  exact ((decidedBy_expressionItems asked (unbraced.of_suffix ahead)).map
    (item :: ·)).cons_advance.cons_advance
termination_by 8 * used.length + 5
decreasing_by all_goals grind only [→ List.IsSuffix.length_le, List.length_cons]
end

/-! ## Statements -/

theorem decidedBy_sentence {used : List Token} (unbraced : Unbraced used) :
    DecidedBy sentence used := by
  cases used with
  | nil =>
      -- No statement begins with a boundary.
      refine ((decidedBy_expression .lowest unbraced).map Statement.evaluate).congr ?_
      intro rest ends
      have none : rest.kind ≠ .letWord ∧ rest.kind ≠ .returnWord := by
        revert ends
        cases rest.kind <;> decide
      rw [List.nil_append, sentence_of_other none.1 none.2]
  | cons token more =>
      have some_used : token :: more ≠ [] := List.cons_ne_nil _ _
      have inner : Unbraced more := unbraced.of_suffix (List.suffix_cons _ _)
      by_cases isLet : token.kind = .letWord
      · refine DecidedBy.of_cons (fun cursor => (expect .identifier cursor).andThen
          fun named _ _ => (expect .assign named).andThen fun assigned _ _ =>
            ((expression .lowest assigned.next).map (Statement.bind named.literal)).since
              assigned.next_suffix) (fun rest => @sentence_of_let (token :: rest) isLet) ?_
        refine (decidedBy_expect (by decide) some_used).andThen fun named _ some_named suffix => ?_
        obtain ⟨name, others, rfl⟩ := List.exists_cons_of_ne_nil some_named
        refine DecidedBy.of_cons (fun start => (expect .assign start).andThen
          fun assigned _ _ => ((expression .lowest assigned.next).map
            (Statement.bind name.literal)).since assigned.next_suffix) (fun _ => rfl) ?_
        refine (decidedBy_expect (by decide) some_named).andThen fun assigned _ some_assigned
          suffix' => ?_
        obtain ⟨sign, value, rfl⟩ := List.exists_cons_of_ne_nil some_assigned
        have ahead : value <:+ token :: more :=
          (List.suffix_cons _ _).trans (suffix'.trans suffix)
        exact ((decidedBy_expression .lowest (unbraced.of_suffix ahead)).map _).cons_advance
      · by_cases isReturn : token.kind = .returnWord
        · exact .of_cons _ (fun rest => @sentence_of_return (token :: rest) isReturn)
            ((decidedBy_expression .lowest inner).map Statement.ret).cons_advance
        · exact .of_cons _ (fun rest => @sentence_of_other (token :: rest) isLet isReturn)
            ((decidedBy_expression .lowest unbraced).map Statement.evaluate)

/-- Tokens that fail to be a statement before one boundary fail before every one. -/
theorem failsBy_statement {used : List Token} (unbraced : Unbraced used) {rest : Cursor}
    (ends : rest.kind ∈ TokenKind.boundaries)
    (malformed : ∀ first, (statement (used ++ rest)).result ≠ .ok first) :
    ∃ cause left, FailsBy statement used cause left := by
  rcases decidedBy_sentence unbraced with ⟨value, left, _, succeeds⟩ | ⟨cause, left, fails⟩
  · have parts := succeeds rest ends
    simp only [Reply.parts, Prod.mk.injEq] at parts
    refine absurd ?_ (malformed value)
    rw [statement_eq]
    simp only [Reply.andThen, parts.1]
    exact congrArg Prod.fst (reads_closeStatement _ value)
  · refine ⟨cause, left, fun rest ends => ?_⟩
    rw [statement_eq]
    exact fails.andThen rest ends

end MonkeyLang
