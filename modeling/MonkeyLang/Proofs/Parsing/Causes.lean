import MonkeyLang.Parsing
import MonkeyLang.Proofs.Parsing.Guarantee

/-!
# Where diagnostics arise

Every diagnostic describes the tokens at the place where its production stopped
(`Diagnostic.ArisesAt`). There are four ways to fail. If a token that was asked for does not come
next, the production stops before the token that stands in its place. If no expression begins with a
token, if an integer does not fit, or if the input ends inside a block, it stops on that very token.
A missing continuation never arises, because a token is taken for one only if it is stronger than
some operator, and every such token has a continuation.

A reply is traced if its own failure arises where it stopped and everything it recorded arose
somewhere from its cursor on (`Reply.Traced`). Each production is traced (`traced_statement` and
those after it), and so is a whole parse (`arises_of_mem_diagnostics`). Where a token is asked for,
the current token must not be the end of the input. This is known from what comes before: a token of
a known kind, or an expression, which ends inside the input.
-/

set_option autoImplicit false

namespace MonkeyLang

/-! ## Places of failure -/

/-- The diagnostic tells what is wrong at the cursor. -/
inductive Diagnostic.ArisesAt : Diagnostic → Cursor → Prop where
  /-- The token after the current one is not the one that was asked for. -/
  | unexpected {expected : TokenKind} {token : Token} {rest : Cursor}
      (inside : token.kind ≠ .endOfInput) (notBrace : expected ≠ .rightBrace)
      (other : Cursor.kind rest ≠ expected) :
      ArisesAt (.unexpected expected (Cursor.kind rest)) (token :: rest)
  /-- The input ends inside a block. -/
  | unclosed {cursor : Cursor} (ended : cursor.kind = .endOfInput) :
      ArisesAt (.unexpected .rightBrace .endOfInput) cursor
  /-- No expression begins with the current token. -/
  | noOperand {cursor : Cursor} (starts : cursor.kind.startsExpression = false) :
      ArisesAt (.noOperand cursor.kind) cursor
  /-- The current token is an integer that does not fit. -/
  | outOfRange {literal : String} {rest : Cursor}
      (tooLarge : Decimal.int64? literal.toList = none) :
      ArisesAt (.integerOutOfRange literal) (⟨.integer, literal⟩ :: rest)

theorem Diagnostic.ArisesAt.of_peek {expected : TokenKind} {cursor : Cursor}
    (inside : cursor.kind ≠ .endOfInput) (notBrace : expected ≠ .rightBrace)
    (other : cursor.peek ≠ expected) : ArisesAt (.unexpected expected cursor.peek) cursor := by
  cases cursor with
  | nil => exact absurd rfl inside
  | cons token rest => exact .unexpected inside notBrace other

namespace Reply

variable {α β : Type} {cursor : Cursor}

/-- The failure arises where the reply stopped, and what was recorded arose from the cursor on. -/
structure Traced (reply : Reply cursor α) : Prop where
  cause : ∀ cause, reply.result = .error cause → cause.ArisesAt reply.stop
  recorded : ∀ diagnostic ∈ reply.recorded, ∃ place, place <:+ cursor ∧ diagnostic.ArisesAt place

theorem traced_succeed (value : α) : (succeed cursor value).Traced where
  cause := by rintro _ ⟨⟩
  recorded := List.forall_mem_nil _

theorem traced_fail {cause : Diagnostic} (arises : cause.ArisesAt cursor) :
    (fail cursor cause : Reply cursor α).Traced where
  cause := by
    rintro _ ⟨⟩
    exact arises
  recorded := List.forall_mem_nil _

theorem Traced.since {start : Cursor} {reply : Reply start α} (traced : reply.Traced)
    (ahead : start <:+ cursor) : (reply.since ahead).Traced where
  cause := traced.cause
  recorded diagnostic mem := by
    obtain ⟨place, behind, arises⟩ := traced.recorded diagnostic mem
    exact ⟨place, behind.trans ahead, arises⟩

theorem Traced.map {reply : Reply cursor α} (traced : reply.Traced) (f : α → β) :
    (reply.map f).Traced := by
  refine ⟨fun cause fails => ?_, traced.recorded⟩
  obtain ⟨result, recorded, stop, forward⟩ := reply
  cases result with
  | error cause' =>
      cases fails
      exact traced.cause cause rfl
  | ok value => cases fails

/-- What goes on may use what the first reply ensures. -/
theorem Traced.andThen_of_ensures {property : α → Cursor → Prop} {reply : Reply cursor α}
    {following : (stop : Cursor) → stop <:+ cursor → α → Reply stop β} (traced : reply.Traced)
    (ensures : reply.Ensures property)
    (further : ∀ stop ahead value, property value stop → (following stop ahead value).Traced) :
    (reply.andThen following).Traced := by
  obtain ⟨result, recorded, stop, forward⟩ := reply
  cases result with
  | error cause =>
      refine ⟨?_, traced.recorded⟩
      rintro _ ⟨⟩
      exact traced.cause cause rfl
  | ok value =>
      have goesOn := (further stop forward value (ensures value rfl)).since forward
      exact ⟨goesOn.cause,
        List.forall_mem_append.mpr ⟨traced.recorded, goesOn.recorded⟩⟩

theorem Traced.andThen {reply : Reply cursor α}
    {following : (stop : Cursor) → stop <:+ cursor → α → Reply stop β} (traced : reply.Traced)
    (further : ∀ stop ahead value, (following stop ahead value).Traced) :
    (reply.andThen following).Traced := by
  have nothing : reply.Ensures fun _ _ => True := fun _ _ => trivial
  exact traced.andThen_of_ensures nothing fun stop ahead value _ => further stop ahead value

/-- The cause of a malformed statement is recorded. -/
theorem Traced.orSkip {reply : Reply cursor α}
    {following : (stop : Cursor) → stop <:+ cursor → Option α → Reply stop β}
    (traced : reply.Traced)
    (further : ∀ stop ahead kept, (following stop ahead kept).Traced) :
    (reply.orSkip following).Traced := by
  obtain ⟨result, recorded, stop, forward⟩ := reply
  cases result with
  | error cause =>
      have ahead := stop.recover_suffix.trans forward
      have goesOn := (further stop.recover ahead none).since ahead
      refine ⟨goesOn.cause, List.forall_mem_append.mpr ⟨traced.recorded, ?_⟩⟩
      exact List.forall_mem_cons.mpr ⟨⟨stop, forward, traced.cause cause rfl⟩, goesOn.recorded⟩
  | ok value =>
      have goesOn := (further stop forward (some value)).since forward
      exact ⟨goesOn.cause, List.forall_mem_append.mpr ⟨traced.recorded, goesOn.recorded⟩⟩

end Reply

open Reply

/-! ## Steps without recursion -/

theorem traced_expect {kind : TokenKind} {cursor : Cursor} (inside : cursor.kind ≠ .endOfInput)
    (notBrace : kind ≠ .rightBrace) : (expect kind cursor).Traced := by
  rw [expect]
  split
  · exact (traced_succeed ()).since _
  · next other => exact traced_fail (.of_peek inside notBrace other)

theorem traced_closeStatement {α : Type} (cursor : Cursor) (value : α) :
    (closeStatement cursor value).Traced := by
  rw [closeStatement]
  split
  · exact (traced_succeed value).since _
  · exact traced_succeed value

/-- Goes on from a token that was asked for. -/
theorem traced_expect_andThen {β : Type} {kind : TokenKind} {cursor : Cursor}
    {following : (stop : Cursor) → stop <:+ cursor → Unit → Reply stop β}
    (inside : cursor.kind ≠ .endOfInput) (notBrace : kind ≠ .rightBrace)
    (further : ∀ stop ahead, stop.kind = kind → (following stop ahead ()).Traced) :
    ((expect kind cursor).andThen following).Traced :=
  (traced_expect inside notBrace).andThen_of_ensures (ensures_expect kind cursor)
    fun stop ahead _ => further stop ahead

/-- Goes on from the last token of an expression. -/
theorem traced_expression_andThen {β : Type} {weaker : Strength} {cursor : Cursor}
    {following : (stop : Cursor) → stop <:+ cursor → Expression → Reply stop β}
    (traced : (expression weaker cursor).Traced)
    (further : ∀ stop ahead value, stop.kind ≠ .endOfInput → (following stop ahead value).Traced) :
    ((expression weaker cursor).andThen following).Traced :=
  traced.andThen_of_ensures (ensures_expression_inside weaker cursor)
    fun stop ahead value inside => further stop ahead value inside.2

theorem ensures_parameterNames_stop (cursor : Cursor) :
    (parameterNames cursor).Ensures fun _ stop => stop.kind = .rightParen := by
  rw [parameterNames]
  refine ensures_andThen fun stop ahead _ => ?_
  split
  · next more =>
    have shorter := @Cursor.length_next_lt_of_peek stop (by rw [more]; decide)
    have := ahead.length_le
    exact ((ensures_parameterNames_stop stop.next).since _).map
  · exact (ensures_expect .rightParen stop).map
termination_by cursor.length
decreasing_by omega

theorem ensures_parameterList_stop (cursor : Cursor) :
    (parameterList cursor).Ensures fun _ stop => stop.kind = .rightParen := by
  rw [parameterList]
  split
  · next closed => exact (ensures_succeed closed).since _
  · exact ensures_parameterNames_stop cursor

theorem traced_parameterNames {cursor : Cursor} (inside : cursor.kind ≠ .endOfInput) :
    (parameterNames cursor).Traced := by
  rw [parameterNames]
  refine traced_expect_andThen inside (by decide) fun stop ahead isName => ?_
  split
  · next more =>
    have shorter := @Cursor.length_next_lt_of_peek stop (by rw [more]; decide)
    have := ahead.length_le
    have comma : stop.next.kind ≠ .endOfInput := by
      rw [show stop.next.kind = .comma from more]
      decide
    exact ((traced_parameterNames comma).since _).map _
  · exact (traced_expect (isName ▸ by decide) (by decide)).map _
termination_by cursor.length
decreasing_by omega

theorem traced_parameterList {cursor : Cursor} (inside : cursor.kind ≠ .endOfInput) :
    (parameterList cursor).Traced := by
  rw [parameterList]
  split
  · exact (traced_succeed []).since _
  · exact traced_parameterNames inside

/-! ## Statements and expressions -/

mutual
theorem traced_statement (cursor : Cursor) : (statement cursor).Traced := by
  rw [statement]
  split
  · next isLet =>
    refine traced_expect_andThen (isLet ▸ by decide) (by decide) fun named ahead isName => ?_
    refine traced_expect_andThen (isName ▸ by decide) (by decide) fun assigned ahead' _ => ?_
    refine ((traced_expression .lowest assigned.next).since _).andThen fun stop _ value => ?_
    exact traced_closeStatement stop _
  · refine ((traced_expression .lowest cursor.next).since _).andThen fun stop _ value => ?_
    exact traced_closeStatement stop _
  · exact (traced_expression .lowest cursor).andThen fun stop _ value =>
      traced_closeStatement stop _
termination_by 8 * cursor.length + 5
decreasing_by
  all_goals grind only [→ List.IsSuffix.length_le, Cursor.length_next]

theorem traced_expression (weaker : Strength) (cursor : Cursor) :
    (expression weaker cursor).Traced := by
  rw [expression]
  exact (traced_operand cursor).andThen fun stop ahead left =>
    traced_continuation weaker left stop
termination_by 8 * cursor.length + 4
decreasing_by
  all_goals grind only [→ List.IsSuffix.length_le]

theorem traced_operand (cursor : Cursor) : (operand cursor).Traced := by
  cases cursor with
  | nil =>
      rw [operand]
      exact traced_fail (@Diagnostic.ArisesAt.noOperand [] rfl)
  | cons token rest =>
      obtain ⟨kind, literal⟩ := token
      rw [operand]
      cases kind with
      | identifier | string | trueWord | falseWord => exact traced_succeed _
      | integer =>
          dsimp only
          split
          · exact traced_succeed _
          · next tooLarge => exact traced_fail (.outOfRange tooLarge)
      | bang => exact ((traced_expression .unary rest).map _).since _
      | minus =>
          dsimp only
          split
          · next value _ => exact (traced_continuation .unary (.integer value) rest).since _
          · exact ((traced_expression .unary rest).map _).since _
      | leftParen =>
          refine Traced.since (traced_expression_andThen (traced_expression .lowest rest)
            fun stop _ inner inside => ?_) _
          exact (traced_expect inside (by decide)).map _
      | ifWord => exact (traced_conditional rest).since _
      | functionWord | macroWord => exact (traced_callable rest (by rintro ⟨⟩)).map _
      | leftBracket => exact ((traced_expressionList (by decide) rest).map _).since _
      | leftBrace => exact ((traced_pairList rest).map _).since _
      | _ => exact traced_fail (@Diagnostic.ArisesAt.noOperand (⟨_, literal⟩ :: rest) rfl)
termination_by 8 * cursor.length + 3
decreasing_by
  all_goals grind only [List.length_cons]

theorem traced_conditional (cursor : Cursor) : (conditional cursor).Traced := by
  rw [conditional]
  refine traced_expression_andThen (traced_expression .lowest cursor)
    fun tested ahead condition inside => ?_
  refine traced_expect_andThen inside (by decide) fun opened ahead' _ => ?_
  refine ((traced_block opened.next).since _).andThen fun closed ahead'' consequence => ?_
  split
  · next otherwise =>
    refine Traced.since (traced_expect_andThen ?_ (by decide) fun reopened ahead''' _ => ?_) _
    · rw [show closed.next.kind = .elseWord from otherwise]
      decide
    · exact ((traced_block reopened.next).map _).since _
  · exact traced_succeed _
termination_by 8 * cursor.length + 7
decreasing_by
  all_goals grind only [→ List.IsSuffix.length_le, Cursor.length_next]

theorem traced_callable {token : Token} (rest : Cursor) (inside : token.kind ≠ .endOfInput) :
    (callable token rest).Traced := by
  rw [callable]
  refine traced_expect_andThen inside (by decide) fun listed ahead opens => ?_
  refine (traced_parameterList (opens ▸ by decide)).andThen_of_ensures
    (ensures_parameterList_stop listed) fun headed ahead' parameters closes => ?_
  refine traced_expect_andThen (closes ▸ by decide) (by decide) fun opened ahead'' _ => ?_
  exact ((traced_block opened.next).map _).since _
termination_by 8 * (token :: rest).length
decreasing_by
  all_goals grind only [→ List.IsSuffix.length_le, Cursor.length_next, List.length_cons]

theorem traced_continuation (weaker : Strength) (left : Expression) (cursor : Cursor) :
    (continuation weaker left cursor).Traced := by
  rw [continuation]
  split
  · next continues =>
    have shorter := Cursor.length_next_lt_of_strength continues.2
    exact ((traced_extension left continues.2).andThen fun stop ahead extended =>
      traced_continuation weaker extended stop).since _
  · exact traced_succeed left
termination_by 8 * cursor.length + 2
decreasing_by
  all_goals grind only [→ List.IsSuffix.length_le]

/-- Every token that is stronger than some operator has a continuation. -/
theorem traced_extension (left : Expression) {weaker : Strength} {cursor : Cursor}
    (stronger : weaker < Strength.ofKind cursor.kind) : (extension left cursor).Traced := by
  cases cursor with
  | nil => exact absurd stronger weaker.not_lt_lowest
  | cons token rest =>
      obtain ⟨kind, literal⟩ := token
      rw [extension]
      cases kind with
      | leftParen => exact ((traced_expressionList (by decide) rest).map _).since _
      | leftBracket =>
          refine Traced.since (traced_expression_andThen (traced_expression .lowest rest)
            fun stop _ position inside => ?_) _
          exact (traced_expect inside (by decide)).map _
      | plus | minus | asterisk | slash | less | greater | equal | notEqual =>
          exact ((traced_expression _ rest).map _).since _
      | _ => exact absurd stronger weaker.not_lt_lowest
termination_by 8 * cursor.length + 2
decreasing_by
  all_goals grind only [List.length_cons]

theorem traced_expressionList {close : TokenKind} (notBrace : close ≠ .rightBrace)
    (cursor : Cursor) : (expressionList close cursor).Traced := by
  rw [expressionList]
  split
  · exact traced_succeed []
  · exact traced_expressionItems notBrace cursor
termination_by 8 * cursor.length + 6

theorem traced_expressionItems {close : TokenKind} (notBrace : close ≠ .rightBrace)
    (cursor : Cursor) : (expressionItems close cursor).Traced := by
  rw [expressionItems]
  refine traced_expression_andThen (traced_expression .lowest cursor)
    fun stop ahead item inside => ?_
  split
  · next more =>
    have shorter := @Cursor.length_next_lt_of_peek stop (by rw [more]; decide)
    exact ((traced_expressionItems notBrace stop.next.next).map _).since _
  · exact (traced_expect inside notBrace).map _
termination_by 8 * cursor.length + 5
decreasing_by
  all_goals grind only [→ List.IsSuffix.length_le, Cursor.length_next]

theorem traced_pairList (cursor : Cursor) : (pairList cursor).Traced := by
  rw [pairList]
  split
  · exact traced_succeed []
  · refine traced_expression_andThen (traced_expression .lowest cursor)
      fun keyed ahead key inside => ?_
    refine traced_expect_andThen inside (by decide) fun colon ahead' _ => ?_
    refine ((traced_expression .lowest colon.next).since _).andThen_of_ensures
      ((ensures_expression_inside .lowest colon.next).since _) fun stop ahead'' value inside => ?_
    split
    · exact (traced_succeed _).since _
    · split
      · next more =>
        have shorter := @Cursor.length_next_lt_of_peek stop (by rw [more]; decide)
        exact ((traced_pairList stop.next.next).map _).since _
      · next other => exact traced_fail (.of_peek inside.2 (by decide) other)
termination_by 8 * cursor.length + 5
decreasing_by
  all_goals grind only [→ List.IsSuffix.length_le, Cursor.length_next]

theorem traced_block (cursor : Cursor) : (block cursor).Traced := by
  rw [block]
  split
  · exact traced_succeed []
  · split
    · next ended => exact traced_fail (.unclosed ended)
    · next more =>
      have shorter := Cursor.length_next_lt more
      refine (traced_statement cursor).orSkip fun stop ahead kept => ?_
      cases kept with
      | some first => exact ((traced_block stop.next).map _).since _
      | none =>
          dsimp only
          split
          · exact traced_succeed []
          · exact (traced_block stop.next).since _
termination_by 8 * cursor.length + 6
decreasing_by
  all_goals grind only [→ List.IsSuffix.length_le, Cursor.length_next]
end

/-! ## Whole parses -/

/-- Past any place of the input, fewer tokens are left than in all. -/
theorem Cursor.length_next_lt_of_suffix {cursor stop : Cursor} (more : cursor.kind ≠ .endOfInput)
    (ahead : stop <:+ cursor) : stop.next.length < cursor.length := by
  have shorter := length_next_lt more
  have within := ahead.length_le
  rw [length_next] at shorter ⊢
  omega

/-- **Every diagnostic of a parse arises somewhere among its tokens.** -/
theorem arises_of_mem_diagnostics {tokens : List Token} {diagnostic : Diagnostic}
    (mem : diagnostic ∈ (parse tokens).diagnostics) :
    ∃ place, place <:+ tokens ∧ diagnostic.ArisesAt place := by
  rw [parse] at mem
  split at mem
  · cases mem
  · next more =>
    have traced := traced_statement tokens
    have ahead := (statement tokens).forward
    have further : ∀ {stop : Cursor}, stop <:+ tokens →
        diagnostic ∈ (parse stop.next).diagnostics →
          ∃ place, place <:+ tokens ∧ diagnostic.ArisesAt place := by
      intro stop ahead mem
      have shorter := Cursor.length_next_lt_of_suffix more ahead
      obtain ⟨place, behind, arises⟩ := arises_of_mem_diagnostics mem
      exact ⟨place, behind.trans (stop.next_suffix.trans ahead), arises⟩
    dsimp only at mem
    split at mem
    · rcases List.mem_append.mp mem with inside | after
      · exact traced.recorded diagnostic inside
      · exact further ahead after
    · next cause fails =>
      rcases List.mem_append.mp mem with inside | rest
      · exact traced.recorded diagnostic inside
      · rcases List.mem_cons.mp rest with rfl | after
        · exact ⟨_, ahead, traced.cause _ fails⟩
        · exact further ((Cursor.recover_suffix _).trans ahead) after
termination_by tokens.length

end MonkeyLang
