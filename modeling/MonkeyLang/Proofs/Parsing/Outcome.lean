import MonkeyLang.Parsing.Grammar

/-!
# What a reply comes to

A reply belongs to the cursor at which its production was entered, so replies
entered at different places have different types. They are compared by their
outcomes: the result, the diagnostics recorded on the way, and the tokens after
the place where the production stopped. Those tokens are all that the
productions that follow look at.

A production reads a value when it succeeds with it and records nothing. Each
combinator of replies has one lemma that says what it does to an outcome after
a value has been read.

Continuing an expression is described in the same way. It depends only on the
tokens that follow (`outcome_continuation_congr`), and continuing it in two
rounds, first with the stronger tokens alone, is continuing it in one
(`outcome_continuation_continuation`).
-/

set_option autoImplicit false

namespace MonkeyLang

/-! ## Outcomes -/

namespace Reply

variable {α β : Type} {cursor : Cursor}

/-- The result of a reply, what it recorded, and the tokens after its last one. -/
def outcome (reply : Reply cursor α) : Except Diagnostic α × List Diagnostic × Cursor :=
  (reply.result, reply.recorded, reply.stop.next)

/-- A production that succeeds with a value, records nothing and has these tokens after it. -/
def Reads (reply : Reply cursor α) (value : α) (after : Cursor) : Prop :=
  reply.outcome = (.ok value, [], after)

@[simp] theorem outcome_since {start : Cursor} (ahead : start <:+ cursor)
    (reply : Reply start α) : (reply.since ahead).outcome = reply.outcome := rfl

theorem reads_succeed (cursor : Cursor) (value : α) :
    (succeed cursor value).Reads value cursor.next := rfl

theorem Reads.since {start after : Cursor} (ahead : start <:+ cursor) {reply : Reply start α}
    {value : α} (reads : reply.Reads value after) : (reply.since ahead).Reads value after :=
  reads

theorem Reads.map {reply : Reply cursor α} {value : α} {after : Cursor}
    (reads : reply.Reads value after) (f : α → β) : (reply.map f).Reads (f value) after := by
  obtain ⟨result, recorded, stop, forward⟩ := reply
  simp only [Reads, outcome, Prod.mk.injEq] at reads ⊢
  obtain ⟨rfl, rfl, rfl⟩ := reads
  exact ⟨rfl, rfl, rfl⟩

/-- After a value was read, only what follows counts. -/
theorem Reads.outcome_andThen {reply : Reply cursor α} {value : α} {after : Cursor}
    {outcome : Except Diagnostic β × List Diagnostic × Cursor}
    {following : (stop : Cursor) → stop <:+ cursor → α → Reply stop β}
    (reads : reply.Reads value after)
    (comes : ∀ stop ahead, stop.next = after → (following stop ahead value).outcome = outcome) :
    (reply.andThen following).outcome = outcome := by
  obtain ⟨result, recorded, stop, forward⟩ := reply
  simp only [Reads, Reply.outcome, Prod.mk.injEq] at reads
  obtain ⟨rfl, rfl, same⟩ := reads
  exact comes stop forward same

/-- A statement that was read is kept, and only what follows counts. -/
theorem Reads.outcome_orSkip {reply : Reply cursor α} {value : α} {after : Cursor}
    {outcome : Except Diagnostic β × List Diagnostic × Cursor}
    {following : (stop : Cursor) → stop <:+ cursor → Option α → Reply stop β}
    (reads : reply.Reads value after)
    (comes : ∀ stop ahead, stop.next = after →
      (following stop ahead (some value)).outcome = outcome) :
    (reply.orSkip following).outcome = outcome := by
  obtain ⟨result, recorded, stop, forward⟩ := reply
  simp only [Reads, Reply.outcome, Prod.mk.injEq] at reads
  obtain ⟨rfl, rfl, same⟩ := reads
  exact comes stop forward same

/-- Only the outcome of what follows counts. -/
theorem outcome_andThen_congr {reply : Reply cursor α}
    {following following' : (stop : Cursor) → stop <:+ cursor → α → Reply stop β}
    (same : ∀ stop ahead value,
      (following stop ahead value).outcome = (following' stop ahead value).outcome) :
    (reply.andThen following).outcome = (reply.andThen following').outcome := by
  obtain ⟨result, recorded, stop, forward⟩ := reply
  cases result with
  | error cause => rfl
  | ok value =>
      have same := same stop forward value
      simp only [outcome, Prod.mk.injEq] at same
      simp only [andThen, outcome, same]

theorem outcome_since_andThen {start : Cursor} (ahead : start <:+ cursor)
    (reply : Reply start α) (following : (stop : Cursor) → α → Reply stop β) :
    ((reply.since ahead).andThen fun stop _ value => following stop value).outcome =
      (reply.andThen fun stop _ value => following stop value).outcome := by
  obtain ⟨result, recorded, stop, forward⟩ := reply
  cases result <;> rfl

/-- Going on twice is going on with what goes on. -/
theorem outcome_andThen_andThen {γ : Type} (reply : Reply cursor α)
    (following : (stop : Cursor) → stop <:+ cursor → α → Reply stop β)
    (last : (stop : Cursor) → β → Reply stop γ) :
    ((reply.andThen following).andThen fun stop _ value => last stop value).outcome =
      (reply.andThen fun stop ahead value =>
        (following stop ahead value).andThen fun stop _ value => last stop value).outcome := by
  obtain ⟨result, recorded, stop, forward⟩ := reply
  cases result with
  | error cause => rfl
  | ok value =>
      simp only [andThen, outcome]
      cases (following stop forward value).result with
      | error cause => rfl
      | ok value' => simp only [List.append_assoc]

end Reply

/-! ## Steps without recursion -/

/-- The lookahead is told by the tokens after the current one. -/
theorem Cursor.peek_of_next {cursor rest : Cursor} {token : Token}
    (next : cursor.next = token :: rest) : cursor.peek = token.kind := by
  rw [Cursor.peek, next, Cursor.kind]

theorem reads_expect {kind : TokenKind} {text : String} {cursor rest : Cursor}
    (next : cursor.next = ⟨kind, text⟩ :: rest) : (expect kind cursor).Reads () rest := by
  have peek : cursor.peek = kind := Cursor.peek_of_next next
  rw [expect, if_pos peek, Reply.Reads, Reply.outcome_since, next]
  rfl

/-- A required token that stands there is the current one for what follows. -/
theorem outcome_expect_andThen {β : Type} {kind : TokenKind} {text : String}
    {cursor rest : Cursor} {outcome : Except Diagnostic β × List Diagnostic × Cursor}
    {following : (stop : Cursor) → stop <:+ cursor → Unit → Reply stop β}
    (next : cursor.next = ⟨kind, text⟩ :: rest)
    (comes : ∀ ahead, (following (⟨kind, text⟩ :: rest) ahead ()).outcome = outcome) :
    ((expect kind cursor).andThen following).outcome = outcome := by
  have peek : cursor.peek = kind := Cursor.peek_of_next next
  rw [expect, if_pos peek]
  cases cursor with
  | nil => cases next
  | cons first tail =>
      cases next
      exact comes _

/-- The tokens after a semicolon, if they begin with one. -/
def Cursor.pastSemicolon (cursor : Cursor) : Cursor :=
  if cursor.kind = .semicolon then cursor.next else cursor

/-- A statement that is closed takes in a semicolon after it. -/
theorem reads_closeStatement {α : Type} (cursor : Cursor) (value : α) :
    (closeStatement cursor value).Reads value cursor.next.pastSemicolon := by
  rw [closeStatement, Cursor.pastSemicolon, Cursor.peek]
  split
  · rfl
  · exact Reply.reads_succeed cursor value

/-! ## Expressions and their continuations -/

/-- An operand that was read is the expression so far. -/
theorem outcome_expression_of_operand {weaker : Strength} {cursor after : Cursor}
    {left : Expression} {outcome : Except Diagnostic Expression × List Diagnostic × Cursor}
    (reads : (operand cursor).Reads left after)
    (comes : ∀ stop : Cursor, stop.next = after →
      (continuation weaker left stop).outcome = outcome) :
    (expression weaker cursor).outcome = outcome := by
  rw [expression]
  exact reads.outcome_andThen fun stop _ next => comes stop next

/-- A token is a stronger continuation as soon as its strength is greater: a semicolon has none. -/
theorem Cursor.continues_iff {weaker : Strength} {cursor : Cursor} :
    cursor.Continues weaker ↔ weaker < Strength.ofKind cursor.peek := by
  refine ⟨fun continues => continues.2, fun stronger => ⟨fun semicolon => ?_, stronger⟩⟩
  rw [semicolon] at stronger
  exact Strength.not_lt_lowest weaker stronger

/-- An expression ends before a token that is not stronger than the operator before it. -/
theorem reads_continuation {weaker : Strength} {cursor : Cursor}
    (ends : ¬ weaker < Strength.ofKind cursor.peek) (left : Expression) :
    (continuation weaker left cursor).Reads left cursor.next := by
  rw [continuation, dif_neg fun continues => ends (Cursor.continues_iff.mp continues)]
  exact Reply.reads_succeed cursor left

/-- A stronger continuation that was read is the expression so far. -/
theorem outcome_continuation_of_extension {weaker : Strength} {cursor after : Cursor}
    {left extended : Expression}
    {outcome : Except Diagnostic Expression × List Diagnostic × Cursor}
    (stronger : weaker < Strength.ofKind cursor.peek)
    (reads : (extension left cursor.next).Reads extended after)
    (comes : ∀ stop : Cursor, stop.next = after →
      (continuation weaker extended stop).outcome = outcome) :
    (continuation weaker left cursor).outcome = outcome := by
  rw [continuation, dif_pos (Cursor.continues_iff.mpr stronger), Reply.outcome_since]
  exact reads.outcome_andThen fun stop _ next => comes stop next

/-- How an expression goes on depends only on the tokens after the current one. -/
theorem outcome_continuation_congr {weaker : Strength} {left : Expression}
    {cursor cursor' : Cursor} (next : cursor.next = cursor'.next) :
    (continuation weaker left cursor).outcome = (continuation weaker left cursor').outcome := by
  have peek : cursor.peek = cursor'.peek := by rw [Cursor.peek, Cursor.peek, next]
  by_cases stronger : weaker < Strength.ofKind cursor.peek
  · have stronger' : weaker < Strength.ofKind cursor'.peek := peek ▸ stronger
    rw [continuation, dif_pos (Cursor.continues_iff.mpr stronger), continuation,
      dif_pos (Cursor.continues_iff.mpr stronger')]
    rw [Reply.outcome_since, Reply.outcome_since, next]
  · have ends : ¬ weaker < Strength.ofKind cursor'.peek := peek ▸ stronger
    have reads := reads_continuation stronger left
    rw [Reply.Reads, next] at reads
    exact reads.trans (reads_continuation ends left).symm

/-- Going on with the stronger tokens first and then with the others is going on with all. -/
theorem outcome_continuation_continuation {weaker stronger : Strength}
    (order : ¬ stronger < weaker) (left : Expression) (cursor : Cursor) :
    ((continuation stronger left cursor).andThen fun stop _ extended =>
      continuation weaker extended stop).outcome = (continuation weaker left cursor).outcome := by
  by_cases strong : stronger < Strength.ofKind cursor.peek
  · have weak : weaker < Strength.ofKind cursor.peek := by
      rw [Strength.lt_iff] at order strong ⊢
      omega
    rw [continuation, dif_pos (Cursor.continues_iff.mpr strong), continuation,
      dif_pos (Cursor.continues_iff.mpr weak), Reply.outcome_since]
    refine (Reply.outcome_since_andThen _ _ _).trans ?_
    refine (Reply.outcome_andThen_andThen _ _ _).trans ?_
    refine Reply.outcome_andThen_congr fun stop ahead extended => ?_
    have _fewer := Cursor.length_next_lt_of_strength strong
    have _forward := ahead.length_le
    exact outcome_continuation_continuation order extended stop
  · exact (reads_continuation strong left).outcome_andThen fun stop _ next =>
      outcome_continuation_congr next
termination_by cursor.length

end MonkeyLang
