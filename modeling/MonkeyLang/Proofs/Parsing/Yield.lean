import MonkeyLang.Parsing
import MonkeyLang.Proofs.Parsing.Guarantee

/-!
# How much a parse can yield

A parse ends on every list of tokens, and what it yields is bounded by the tokens:
every statement it keeps, at whatever depth, and every diagnostic it reports is paid
for by a token of its own (`parse_yield_le`). The end of the input pays for nothing,
also where it stands in the middle of a list.

The token that pays for a statement, or for the diagnostic of a malformed one, is the
one that the statement begins with. A production therefore has the tokens after its
current one to spend, and what it yields together with the tokens after its stop never
exceeds them (`Reply.Affords`). This holds of failures as well as of successes, because
recovery goes on from the place of a failure.
-/

set_option autoImplicit false

namespace MonkeyLang

/-! ## Statements inside statements -/

mutual
/-- The number of statements inside a statement, at every depth, the statement itself left out. -/
def Statement.innerCount : Statement → Nat
  | .bind _ value => value.innerCount
  | .ret value => value.innerCount
  | .evaluate expression => expression.innerCount
  | .group body => statementCount body

/-- The number of statements in a list of statements, at every depth. -/
def statementCount : List Statement → Nat
  | [] => 0
  | first :: rest => 1 + first.innerCount + statementCount rest

/-- The number of statements inside an expression, at every depth. -/
def Expression.innerCount : Expression → Nat
  | .identifier _ | .integer _ | .string _ | .boolean _ => 0
  | .unary _ operand => operand.innerCount
  | .binary _ left right => left.innerCount + right.innerCount
  | .conditional condition consequence none => condition.innerCount + statementCount consequence
  | .conditional condition consequence (some alternative) =>
    condition.innerCount + statementCount consequence + statementCount alternative
  | .function _ body => statementCount body
  | .call callee arguments => callee.innerCount + innerCountOfList arguments
  | .array elements => innerCountOfList elements
  | .index collection position => collection.innerCount + position.innerCount
  | .hash pairs => innerCountOfPairs pairs
  | .macroLiteral _ body => statementCount body

/-- The number of statements inside some expressions, at every depth. -/
def innerCountOfList : List Expression → Nat
  | [] => 0
  | first :: rest => first.innerCount + innerCountOfList rest

/-- The number of statements inside some pairs, at every depth. -/
def innerCountOfPairs : List (Expression × Expression) → Nat
  | [] => 0
  | (key, value) :: rest => key.innerCount + value.innerCount + innerCountOfPairs rest
end

/-! ## Tokens to spend -/

/-- The number of tokens other than the end of the input. -/
def tokenCount (tokens : List Token) : Nat :=
  tokens.countP fun token => token.kind ≠ .endOfInput

theorem tokenCount_le_of_suffix {tokens after : List Token} (ahead : after <:+ tokens) :
    tokenCount after ≤ tokenCount tokens :=
  ahead.sublist.countP_le

theorem tokenCount_next_le (cursor : Cursor) : tokenCount cursor.next ≤ tokenCount cursor :=
  tokenCount_le_of_suffix cursor.next_suffix

/-- What is left after the current token only becomes less. -/
theorem tokenCount_next_le_of_suffix {cursor stop : Cursor} (ahead : stop <:+ cursor) :
    tokenCount stop.next ≤ tokenCount cursor.next := by
  refine tokenCount_le_of_suffix ?_
  obtain ⟨used, rfl⟩ := ahead
  cases used with
  | nil => exact List.suffix_refl _
  | cons token rest => exact stop.next_suffix.trans (List.suffix_append rest stop)

/-- A token that is not the end of the input is one to spend. -/
theorem tokenCount_eq_next_add_one {cursor : Cursor} (more : cursor.kind ≠ .endOfInput) :
    tokenCount cursor = tokenCount cursor.next + 1 := by
  cases cursor with
  | nil => exact absurd rfl more
  | cons token rest =>
      have more : token.kind ≠ .endOfInput := more
      simp [tokenCount, Cursor.next, more]

/-! ## Replies that a bound affords -/

namespace Reply

variable {α β : Type} {cursor : Cursor} {bound : Nat} {count : α → Nat}

/-- What the reply recorded, what counts in its result, and the tokens after its stop are together
no more than the bound. -/
def Affords (reply : Reply cursor α) (count : α → Nat) (bound : Nat) : Prop :=
  reply.recorded.length + (reply.result.toOption.elim 0 count) + tokenCount reply.stop.next ≤ bound

theorem affords_succeed {value : α} (within : count value + tokenCount cursor.next ≤ bound) :
    (succeed cursor value).Affords count bound := by
  simpa [Affords, succeed, Except.toOption] using within

theorem affords_fail {cause : Diagnostic} (within : tokenCount cursor.next ≤ bound) :
    (fail cursor cause : Reply cursor α).Affords count bound := by
  simpa [Affords, fail, Except.toOption] using within

theorem Affords.since {start : Cursor} {reply : Reply start α} (affords : reply.Affords count bound)
    (ahead : start <:+ cursor) : (reply.since ahead).Affords count bound :=
  affords

theorem Affords.mono {more : Nat} {reply : Reply cursor α} (affords : reply.Affords count bound)
    (le : bound ≤ more) : reply.Affords count more :=
  Nat.le_trans affords le

theorem Affords.map {f : α → β} {count' : β → Nat} {reply : Reply cursor α}
    (affords : reply.Affords count bound) (counted : ∀ value, count' (f value) = count value) :
    (reply.map f).Affords count' bound := by
  obtain ⟨result, recorded, stop, forward⟩ := reply
  cases result with
  | error cause => exact affords
  | ok value => simpa [Affords, Reply.map, Except.map, Except.toOption, counted] using affords

/-- What counts already is added on both sides. -/
theorem Affords.add {reply : Reply cursor α} (affords : reply.Affords count bound) (extra : Nat) :
    reply.Affords (fun value => extra + count value) (extra + bound) := by
  obtain ⟨result, recorded, stop, forward⟩ := reply
  cases result with
  | error cause => exact Nat.le_add_left_of_le affords
  | ok value =>
      simp only [Affords, Except.toOption, Option.elim] at affords ⊢
      omega

/-- What goes on after a success has its result and the tokens after its stop to spend. -/
theorem Affords.andThen {count' : β → Nat} {reply : Reply cursor α}
    {following : (stop : Cursor) → stop <:+ cursor → α → Reply stop β}
    (affords : reply.Affords count bound)
    (further : ∀ stop ahead value,
      (following stop ahead value).Affords count' (count value + tokenCount stop.next)) :
    (reply.andThen following).Affords count' bound := by
  obtain ⟨result, recorded, stop, forward⟩ := reply
  cases result with
  | error cause => exact affords
  | ok value =>
      have more := further stop forward value
      simp only [Affords, Except.toOption, Option.elim, Reply.andThen, List.length_append]
        at affords more ⊢
      omega

/-- A statement is paid for by one more token, whether it is kept or left out. -/
theorem Affords.orSkip {count' : β → Nat} {reply : Reply cursor α}
    {following : (stop : Cursor) → stop <:+ cursor → Option α → Reply stop β}
    (affords : reply.Affords count bound)
    (kept : ∀ stop ahead value,
      (following stop ahead (some value)).Affords count'
        (1 + count value + tokenCount stop.next))
    (skipped : ∀ stop ahead,
      (following stop ahead none).Affords count' (tokenCount stop.next)) :
    (reply.orSkip following).Affords count' (bound + 1) := by
  obtain ⟨result, recorded, stop, forward⟩ := reply
  cases result with
  | error cause =>
      have less := tokenCount_next_le_of_suffix stop.recover_suffix
      have more := skipped stop.recover (stop.recover_suffix.trans forward)
      simp only [Affords, Except.toOption, Option.elim, Reply.orSkip, List.length_append,
        List.length_cons] at affords more ⊢
      omega
  | ok value =>
      have more := kept stop forward value
      simp only [Affords, Except.toOption, Option.elim, Reply.orSkip, List.length_append]
        at affords more ⊢
      omega

end Reply

open Reply

/-! ## Productions -/

theorem affords_expect (kind : TokenKind) (cursor : Cursor) (extra : Nat) :
    (expect kind cursor).Affords (fun _ => extra) (extra + tokenCount cursor.next) := by
  have less := tokenCount_next_le cursor.next
  rw [expect]
  split
  · exact Affords.since (affords_succeed (by omega)) _
  · exact affords_fail (Nat.le_add_left _ _)

theorem affords_closeStatement {α : Type} (cursor : Cursor) (value : α) (count : α → Nat) :
    (closeStatement cursor value).Affords count (count value + tokenCount cursor.next) := by
  have less := tokenCount_next_le cursor.next
  rw [closeStatement]
  split
  · exact Affords.since (affords_succeed (by omega)) _
  · exact affords_succeed (Nat.le_refl _)

theorem affords_parameterNames (cursor : Cursor) :
    (parameterNames cursor).Affords (fun _ => 0) (tokenCount cursor.next) := by
  rw [parameterNames]
  refine ((affords_expect .identifier cursor 0).mono (by omega)).andThen fun stop ahead _ => ?_
  split
  · next more =>
    have shorter := @Cursor.length_next_lt_of_peek stop (by rw [more]; decide)
    have := ahead.length_le
    have less := tokenCount_next_le stop.next
    refine (((affords_parameterNames stop.next).mono (by omega)).since _).map ?_
    exact fun _ => rfl
  · exact (affords_expect .rightParen stop 0).map fun _ => rfl
termination_by cursor.length
decreasing_by omega

theorem affords_parameterList (cursor : Cursor) :
    (parameterList cursor).Affords (fun _ => 0) (tokenCount cursor.next) := by
  rw [parameterList]
  split
  · have less := tokenCount_next_le cursor.next
    exact Affords.since (affords_succeed (by omega)) _
  · exact affords_parameterNames cursor

mutual
/-- **A statement yields no more than the tokens after its first one afford.** -/
theorem affords_statement (cursor : Cursor) :
    (statement cursor).Affords Statement.innerCount (tokenCount cursor.next) := by
  rw [statement]
  split
  · refine ((affords_expect .identifier cursor 0).mono (by omega)).andThen fun named ahead _ => ?_
    refine (affords_expect .assign named 0).andThen fun assigned ahead' _ => ?_
    have less := tokenCount_next_le assigned.next
    have := Cursor.length_next assigned
    refine (((affords_expression .lowest assigned.next).mono (by omega)).since _).andThen ?_
    exact fun stop _ value =>
      affords_closeStatement stop (Statement.bind named.literal value) Statement.innerCount
  · have less := tokenCount_next_le cursor.next
    have := Cursor.length_next cursor
    refine (((affords_expression .lowest cursor.next).mono less).since _).andThen ?_
    exact fun stop _ value =>
      affords_closeStatement stop (Statement.ret value) Statement.innerCount
  · refine (affords_expression .lowest cursor).andThen ?_
    exact fun stop _ value =>
      affords_closeStatement stop (Statement.evaluate value) Statement.innerCount
termination_by 8 * cursor.length + 5
decreasing_by all_goals grind only [→ List.IsSuffix.length_le]

theorem affords_expression (weaker : Strength) (cursor : Cursor) :
    (expression weaker cursor).Affords Expression.innerCount (tokenCount cursor.next) := by
  rw [expression]
  exact (affords_operand cursor).andThen fun stop _ left =>
    affords_continuation weaker left stop
termination_by 8 * cursor.length + 4
decreasing_by all_goals grind only [→ List.IsSuffix.length_le]

theorem affords_operand (cursor : Cursor) :
    (operand cursor).Affords Expression.innerCount (tokenCount cursor.next) := by
  cases cursor with
  | nil =>
      rw [operand]
      exact affords_fail (Nat.le_refl _)
  | cons token rest =>
      obtain ⟨kind, literal⟩ := token
      -- An inner production is entered on the token after this one.
      have less : tokenCount (Cursor.next rest) ≤ tokenCount (Cursor.next (⟨kind, literal⟩ :: rest)) :=
        tokenCount_next_le rest
      rw [operand]
      cases kind with
      | identifier | string | trueWord | falseWord => exact affords_succeed (Nat.le_of_eq (Nat.zero_add _))
      | integer =>
          dsimp only
          split
          · exact affords_succeed (Nat.le_of_eq (Nat.zero_add _))
          · exact affords_fail (Nat.le_refl _)
      | bang =>
          refine Affords.since ?_ _
          exact ((affords_expression .unary rest).mono less).map fun _ => rfl
      | minus =>
          dsimp only
          split
          · next value _ =>
            refine Affords.since (Affords.mono (affords_continuation .unary (.integer value) rest) ?_) _
            rw [Expression.innerCount, Nat.zero_add]
            exact less
          · refine Affords.since ?_ _
            exact ((affords_expression .unary rest).mono less).map fun _ => rfl
      | leftParen =>
          refine Affords.since (((affords_expression .lowest rest).mono less).andThen ?_) _
          exact fun stop _ inner => (affords_expect .rightParen stop inner.innerCount).map fun _ => rfl
      | ifWord => exact ((affords_conditional rest).mono less).since _
      | functionWord | macroWord => exact (affords_callable _ rest).map fun _ => rfl
      | leftBracket =>
          refine Affords.since ?_ _
          exact ((affords_expressionList .rightBracket rest).mono less).map fun _ => rfl
      | leftBrace =>
          refine Affords.since ?_ _
          exact ((affords_pairList rest).mono less).map fun _ => rfl
      | _ => exact affords_fail (Nat.le_refl _)
termination_by 8 * cursor.length + 3
decreasing_by all_goals grind only [List.length_cons]

theorem affords_conditional (cursor : Cursor) :
    (conditional cursor).Affords Expression.innerCount (tokenCount cursor.next) := by
  rw [conditional]
  refine (affords_expression .lowest cursor).andThen fun tested ahead condition => ?_
  refine (affords_expect .leftBrace tested condition.innerCount).andThen fun opened ahead' _ => ?_
  have consequences := ((affords_block opened.next).add condition.innerCount).since
    opened.next_suffix
  refine consequences.andThen fun closed further consequence => ?_
  split
  · have less := tokenCount_next_le closed.next
    refine Affords.since (Affords.andThen ((affords_expect .leftBrace closed.next
      (condition.innerCount + statementCount consequence)).mono (by omega)) ?_) _
    intro reopened further' _
    refine Affords.since ?_ _
    exact ((affords_block reopened.next).add _).map fun _ => rfl
  · exact affords_succeed (Nat.le_refl _)
termination_by 8 * cursor.length + 7
decreasing_by all_goals grind only [→ List.IsSuffix.length_le, Cursor.length_next]

theorem affords_callable (token : Token) (rest : Cursor) :
    (callable token rest).Affords (fun parts => statementCount parts.2) (tokenCount rest) := by
  rw [callable]
  refine Affords.andThen ((affords_expect .leftParen (token :: rest) 0).mono ?_) ?_
  · rw [Nat.zero_add]
    exact Nat.le_refl _
  intro listed ahead _
  refine ((affords_parameterList listed).mono (by omega)).andThen fun headed ahead' parameters => ?_
  refine (affords_expect .leftBrace headed 0).andThen fun opened further _ => ?_
  refine Affords.since ?_ _
  exact ((affords_block opened.next).mono (Nat.le_add_left _ _)).map fun _ => rfl
termination_by 8 * (token :: rest).length
decreasing_by
  all_goals grind only [→ List.IsSuffix.length_le, Cursor.length_next, List.length_cons]

theorem affords_continuation (weaker : Strength) (left : Expression) (cursor : Cursor) :
    (continuation weaker left cursor).Affords Expression.innerCount
      (left.innerCount + tokenCount cursor.next) := by
  rw [continuation]
  split
  · next continues =>
    have shorter := Cursor.length_next_lt_of_strength continues.2
    have less := tokenCount_next_le cursor.next
    refine Affords.since (Affords.andThen ((affords_extension left cursor.next).mono (by omega)) ?_) _
    exact fun stop ahead extended => affords_continuation weaker extended stop
  · exact affords_succeed (Nat.le_refl _)
termination_by 8 * cursor.length + 2
decreasing_by all_goals grind only [→ List.IsSuffix.length_le]

theorem affords_extension (left : Expression) (cursor : Cursor) :
    (extension left cursor).Affords Expression.innerCount
      (left.innerCount + tokenCount cursor.next) := by
  rw [extension.eq_def]
  split
  · exact affords_fail (Nat.le_add_left _ _)
  · next token rest =>
    have less : tokenCount (Cursor.next rest) ≤ tokenCount (Cursor.next (token :: rest)) :=
      tokenCount_next_le rest
    split
    · have arguments := ((affords_expressionList .rightParen rest).mono less).add left.innerCount
      refine Affords.since ?_ _
      exact arguments.map fun _ => rfl
    · have position := ((affords_expression .lowest rest).mono less).add left.innerCount
      refine Affords.since (position.andThen fun stop _ value => ?_) _
      exact (affords_expect .rightBracket stop (left.innerCount + value.innerCount)).map fun _ => rfl
    · split
      · have right := ((affords_expression (Strength.ofKind token.kind) rest).mono less).add
          left.innerCount
        refine Affords.since ?_ _
        exact right.map fun _ => rfl
      · exact affords_fail (Nat.le_add_left _ _)
termination_by 8 * cursor.length + 2
decreasing_by all_goals grind only [List.length_cons]

theorem affords_expressionList (close : TokenKind) (cursor : Cursor) :
    (expressionList close cursor).Affords innerCountOfList (tokenCount cursor.next) := by
  rw [expressionList]
  split
  · exact affords_succeed (Nat.le_of_eq (Nat.zero_add _))
  · exact affords_expressionItems close cursor
termination_by 8 * cursor.length + 6
decreasing_by all_goals omega

theorem affords_expressionItems (close : TokenKind) (cursor : Cursor) :
    (expressionItems close cursor).Affords innerCountOfList (tokenCount cursor.next) := by
  rw [expressionItems]
  refine (affords_expression .lowest cursor).andThen fun stop ahead item => ?_
  split
  · next more =>
    have less := tokenCount_next_le_of_suffix (stop.next.next_suffix.trans stop.next_suffix)
    have others := ((affords_expressionItems close stop.next.next).mono less).add item.innerCount
    refine Affords.since ?_ _
    exact others.map fun _ => rfl
  · exact (affords_expect close stop item.innerCount).map fun _ => rfl
termination_by 8 * cursor.length + 5
decreasing_by
  all_goals
    grind only [→ List.IsSuffix.length_le, Cursor.length_next, → Cursor.length_next_lt_of_peek]

theorem affords_pairList (cursor : Cursor) :
    (pairList cursor).Affords innerCountOfPairs (tokenCount cursor.next) := by
  rw [pairList]
  split
  · exact affords_succeed (Nat.le_of_eq (Nat.zero_add _))
  · refine (affords_expression .lowest cursor).andThen fun keyed ahead key => ?_
    refine (affords_expect .colon keyed key.innerCount).andThen fun colon ahead' _ => ?_
    have less := tokenCount_next_le colon.next
    have values := (((affords_expression .lowest colon.next).mono less).add key.innerCount).since
      colon.next_suffix
    refine values.andThen fun stop further value => ?_
    split
    · have less := tokenCount_next_le stop.next
      exact Affords.since (affords_succeed (by simp only [innerCountOfPairs]; omega)) _
    · split
      · next more =>
        have less := tokenCount_next_le_of_suffix (stop.next.next_suffix.trans stop.next_suffix)
        have others := ((affords_pairList stop.next.next).mono less).add
          (key.innerCount + value.innerCount)
        refine Affords.since ?_ _
        exact others.map fun _ => rfl
      · exact affords_fail (Nat.le_add_left _ _)
termination_by 8 * cursor.length + 5
decreasing_by
  all_goals
    grind only [→ List.IsSuffix.length_le, Cursor.length_next, → Cursor.length_next_lt_of_peek]

/-- A block yields no more than the tokens from its first one on afford, because every statement in
it begins with one of them. -/
theorem affords_block (cursor : Cursor) :
    (block cursor).Affords statementCount (tokenCount cursor) := by
  have less := tokenCount_next_le cursor
  rw [block]
  split
  · exact affords_succeed (by simpa [statementCount] using less)
  · split
    · exact affords_fail less
    · next more =>
      have shorter := Cursor.length_next_lt more
      rw [tokenCount_eq_next_add_one more]
      refine (affords_statement cursor).orSkip ?_ ?_
      · intro stop ahead first
        refine Affords.since ?_ _
        exact ((affords_block stop.next).add _).map fun _ => rfl
      · intro stop ahead
        dsimp only
        split
        · exact affords_succeed (Nat.le_of_eq (Nat.zero_add _))
        · exact (affords_block stop.next).since _
termination_by 8 * cursor.length + 6
decreasing_by
  all_goals grind only [→ List.IsSuffix.length_le, Cursor.length_next, → Cursor.length_next_lt]
end

/-! ## Programs -/

/-- **What a parse yields is bounded by its tokens.** Whatever the tokens are, reading them comes to
an end, and the diagnostics it reports and the statements it keeps, those inside blocks included,
are together no more than the tokens other than the end of the input. -/
theorem parse_yield_le (tokens : List Token) :
    (parse tokens).diagnostics.length + statementCount (parse tokens).program ≤
      tokenCount tokens := by
  rw [parse]
  split
  · exact Nat.zero_le _
  · next more =>
    have shorter := Cursor.length_next_lt more
    have paid := tokenCount_eq_next_add_one more
    have affords := affords_statement tokens
    have ahead := (statement tokens).forward.length_le
    have := Cursor.length_next tokens
    dsimp only
    split
    · next first came =>
      have := Cursor.length_next (statement tokens).stop
      have rest := parse_yield_le (statement tokens).stop.next
      simp only [Affords, came, Except.toOption, Option.elim] at affords
      simp only [Parsed.keep, List.length_append, statementCount]
      omega
    · next cause came =>
      have skips := (statement tokens).stop.recover_suffix
      have := skips.length_le
      have := Cursor.length_next (statement tokens).stop.recover
      have less := tokenCount_next_le_of_suffix skips
      have rest := parse_yield_le (statement tokens).stop.recover.next
      simp only [Affords, came, Except.toOption, Option.elim] at affords
      simp only [Parsed.skip, List.length_append, List.length_cons]
      omega
termination_by tokens.length
decreasing_by all_goals omega

end MonkeyLang
