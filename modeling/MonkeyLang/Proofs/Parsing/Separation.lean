import MonkeyLang.Proofs.Parsing.Completeness

/-!
# Which semicolons cannot be left out

A minus sign, an opening parenthesis or an opening bracket after a statement
goes on with the expression at its end. What the parser reads there is larger
than what was spelled, so it never is the statement that was spelled
(`Spelling.statement_ne`). The condition under which the grammar lets a
semicolon be left out is therefore the weakest one.
-/

set_option autoImplicit false

namespace MonkeyLang

/-! ## Successful replies -/

namespace Reply

variable {α β : Type} {cursor : Cursor}

theorem result_since {start : Cursor} (ahead : start <:+ cursor) (reply : Reply start α) :
    (reply.since ahead).result = reply.result := rfl

theorem of_andThen_ok {reply : Reply cursor α}
    {following : (stop : Cursor) → stop <:+ cursor → α → Reply stop β} {result : β}
    (succeeds : (reply.andThen following).result = .ok result) :
    ∃ value, reply.result = .ok value ∧
      (following reply.stop reply.forward value).result = .ok result := by
  obtain ⟨first, recorded, stop, forward⟩ := reply
  cases first with
  | error cause => cases succeeds
  | ok value => exact ⟨value, rfl, succeeds⟩

theorem of_map_ok {reply : Reply cursor α} {f : α → β} {result : β}
    (succeeds : (reply.map f).result = .ok result) :
    ∃ value, reply.result = .ok value ∧ f value = result := by
  obtain ⟨first, recorded, stop, forward⟩ := reply
  cases first with
  | error cause => cases succeeds
  | ok value => exact ⟨value, rfl, Except.ok.inj succeeds⟩

end Reply

/-! ## Continuing makes an expression larger -/

theorem sizeOf_lt_of_extension {left extended : Expression} {cursor : Cursor}
    (succeeds : (extension left cursor).result = .ok extended) :
    sizeOf left < sizeOf extended := by
  rw [extension.eq_def] at succeeds
  split at succeeds
  · cases succeeds
  · split at succeeds
    · rw [Reply.result_since] at succeeds
      obtain ⟨_, _, rfl⟩ := Reply.of_map_ok succeeds
      simp only [Expression.call.sizeOf_spec]
      omega
    · rw [Reply.result_since] at succeeds
      obtain ⟨_, _, inner⟩ := Reply.of_andThen_ok succeeds
      obtain ⟨_, _, rfl⟩ := Reply.of_map_ok inner
      simp only [Expression.index.sizeOf_spec]
      omega
    · split at succeeds
      · rw [Reply.result_since] at succeeds
        obtain ⟨_, _, rfl⟩ := Reply.of_map_ok succeeds
        simp only [Expression.binary.sizeOf_spec]
        omega
      · cases succeeds

theorem sizeOf_le_of_continuation {weaker : Strength} {left result : Expression} {cursor : Cursor}
    (succeeds : (continuation weaker left cursor).result = .ok result) :
    sizeOf left ≤ sizeOf result := by
  rw [continuation] at succeeds
  split at succeeds
  · next continues =>
    rw [Reply.result_since] at succeeds
    obtain ⟨extended, first, second⟩ := Reply.of_andThen_ok succeeds
    have _fewer := Cursor.length_next_lt_of_strength continues.2
    have _forward := (extension left cursor.next).forward.length_le
    exact Nat.le_trans (Nat.le_of_lt (sizeOf_lt_of_extension first))
      (sizeOf_le_of_continuation second)
  · cases succeeds
    exact Nat.le_refl _
termination_by cursor.length

/-- Where a token goes on with an expression, the result is at least as large as what that one
continuation made of the expression. -/
theorem of_continuation_ok {weaker : Strength} {left result : Expression} {cursor : Cursor}
    (stronger : weaker < Strength.ofKind cursor.peek)
    (succeeds : (continuation weaker left cursor).result = .ok result) :
    ∃ extended, (extension left cursor.next).result = .ok extended ∧
      sizeOf extended ≤ sizeOf result := by
  rw [continuation, dif_pos (Cursor.continues_iff.mpr stronger), Reply.result_since] at succeeds
  obtain ⟨extended, first, second⟩ := Reply.of_andThen_ok succeeds
  exact ⟨extended, first, sizeOf_le_of_continuation second⟩

/-! ## What goes on with a spelling -/

/-- Before a token that the strength lets in, what is read in place of the expression is larger
than the expression. -/
def Outgrown (level : Level) (value : Expression) (tokens : List Token) : Prop :=
  ∀ (weaker : Strength) (rest : Cursor) (result : Expression), level.Passes weaker →
    rest.kind ≠ .elseWord → weaker < Strength.ofKind rest.kind →
    (expression weaker (tokens ++ rest)).result = .ok result → sizeOf value < sizeOf result

section Growth

variable {level : Level} {value : Expression} {tokens : List Token}

/-- Reading a spelling comes to the same as continuing what it spells, whatever token the
cursor stands on. -/
theorem ParsesAs.result_eq (read : ParsesAs (.expression level value) tokens) {weaker : Strength}
    {rest : Cursor} (passes : level.Passes weaker) (ends : level.EndsBefore rest.kind)
    (current : Token) :
    (expression weaker (tokens ++ rest)).result =
      (continuation weaker value (current :: rest)).result := by
  have same : (expression weaker (tokens ++ rest)).outcome =
      (continuation weaker value (current :: rest)).outcome := by
    refine read weaker rest _ passes ends fun stop next => ?_
    exact outcome_continuation_congr (next.trans rfl)
  exact congrArg Prod.fst same

/-- An expression that the following token leaves whole is outgrown as a whole. -/
theorem sizeOf_lt_of_parsesAs {weaker : Strength} {rest : Cursor} {result : Expression}
    (read : ParsesAs (.expression level value) tokens) (passes : level.Passes weaker)
    (ends : level.EndsBefore rest.kind) (stronger : weaker < Strength.ofKind rest.kind)
    (succeeds : (expression weaker (tokens ++ rest)).result = .ok result) :
    sizeOf value < sizeOf result := by
  rw [read.result_eq passes ends .endOfInput] at succeeds
  obtain ⟨extended, first, le⟩ := of_continuation_ok stronger succeeds
  exact Nat.lt_of_lt_of_le (sizeOf_lt_of_extension first) le

theorem outgrown_of_tight (read : ParsesAs (.expression .tight value) tokens) :
    Outgrown .tight value tokens := fun _ _ _ passes notElse stronger succeeds =>
  sizeOf_lt_of_parsesAs read passes (Level.endsBefore_tight notElse) stronger succeeds

end Growth

/-- A unary operator that was read as an operand has read its own operand. -/
theorem of_operand_unary_ok {operator : UnaryOperator} {a : String} {cursor : Cursor}
    {result : Expression} (apart : operator = .negate → cursor.kind ≠ .integer)
    (succeeds : (operand (⟨operator.kind, a⟩ :: cursor)).result = .ok result) :
    ∃ inner, (expression .unary cursor).result = .ok inner ∧ .unary operator inner = result := by
  cases operator with
  | not =>
      rw [operand] at succeeds
      exact Reply.of_map_ok succeeds
  | negate =>
      rw [operand] at succeeds
      simp only [UnaryOperator.kind, Cursor.negated?_of_kind_ne (apart rfl)] at succeeds
      exact Reply.of_map_ok succeeds

/-- A binary operator that was read as a continuation has read its right operand. -/
theorem of_extension_binary_ok {operator : BinaryOperator} {left result : Expression} {a : String}
    {cursor : Cursor}
    (succeeds : (extension left (⟨operator.kind, a⟩ :: cursor)).result = .ok result) :
    ∃ right, (expression (Strength.ofKind operator.kind) cursor).result = .ok right ∧
      .binary operator left right = result := by
  rw [extension] at succeeds
  cases operator <;> exact Reply.of_map_ok succeeds

/-- Every spelling of an expression is outgrown. -/
theorem Spelling.outgrown {level : Level} {value : Expression} {tokens : List Token}
    (spelling : Spelling (.expression level value) tokens) : Outgrown level value tokens := by
  have read := spelling.parsesAs
  cases spelling with
  | @unary operator level operand tokens a high apart inner =>
      intro weaker rest result passes notElse stronger succeeds
      by_cases inside : Strength.unary < Strength.ofKind rest.kind
      · rw [expression] at succeeds
        obtain ⟨outer, first, second⟩ := Reply.of_andThen_ok succeeds
        have apart : operator = .negate → Cursor.kind (tokens ++ rest) ≠ .integer := by
          rw [Cursor.kind_append
            (TokenKind.startsStatement_of_startsExpression inner.startsWith)]
          exact apart
        obtain ⟨grown, reads, rfl⟩ := of_operand_unary_ok apart first
        have larger := inner.outgrown .unary rest grown (Level.passes_unary high) notElse inside
          reads
        have le := sizeOf_le_of_continuation second
        simp only [Expression.unary.sizeOf_spec] at le ⊢
        omega
      · exact sizeOf_lt_of_parsesAs read passes ⟨notElse, inside⟩ stronger succeeds
  | @binary operator leftLevel rightLevel left right before after a atLeast above first second =>
      intro weaker rest result passes notElse stronger succeeds
      by_cases inside : Strength.ofKind operator.kind < Strength.ofKind rest.kind
      · have ends : leftLevel.EndsBefore (Cursor.kind (⟨operator.kind, a⟩ :: (after ++ rest))) :=
          (Level.endsBefore_operator operator).mono atLeast
        rw [List.append_assoc, List.cons_append,
          first.parsesAs.result_eq (passes.mono atLeast) ends .endOfInput] at succeeds
        obtain ⟨extended, reads, le⟩ := of_continuation_ok passes.lt_strength succeeds
        obtain ⟨grown, rightReads, rfl⟩ := of_extension_binary_ok reads
        have larger := second.outgrown _ rest grown (Level.passes_of_lt above) notElse inside
          rightReads
        simp only [Expression.binary.sizeOf_spec] at le ⊢
        omega
      · exact sizeOf_lt_of_parsesAs read passes ⟨notElse, operator.strength_kind ▸ inside⟩
          stronger succeeds
  | _ => exact outgrown_of_tight read

/-! ## Statements -/

theorem result_closeStatement {α : Type} (cursor : Cursor) (value : α) :
    (closeStatement cursor value).result = .ok value :=
  congrArg Prod.fst (reads_closeStatement cursor value)

/-- **Before a token that goes on with it, no statement is read as it was spelled.** -/
theorem Spelling.statement_ne {first : Statement} {tokens : List Token}
    (spelling : Spelling (.statement first) tokens) {rest : Cursor}
    (ambiguous : rest.kind ∈ TokenKind.ambiguousStarts) :
    (statement (tokens ++ rest)).result ≠ .ok first := by
  have grows : ∀ {level : Level} {value : Expression} {tokens : List Token},
      Spelling (.expression level value) tokens →
        (expression .lowest (tokens ++ rest)).result ≠ .ok value := by
    intro level value tokens inner reads
    have goesOn : rest.kind ≠ .elseWord ∧ Strength.lowest < Strength.ofKind rest.kind := by
      revert ambiguous
      cases rest.kind <;> decide
    exact Nat.lt_irrefl _
      (inner.outgrown .lowest rest value level.passes_lowest goesOn.1 goesOn.2 reads)
  intro succeeds
  cases spelling with
  | @bind level name value tokens a b inner =>
      have same := congrArg Prod.fst <| show
        (statement (⟨.letWord, a⟩ :: ⟨.identifier, name⟩ :: ⟨.assign, b⟩ ::
          (tokens ++ rest))).outcome = ((expression .lowest (tokens ++ rest)).andThen
            fun stop _ value => closeStatement stop (Statement.bind name value)).outcome by
        rw [statement]
        exact outcome_expect_andThen rfl fun _ => outcome_expect_andThen rfl fun _ =>
          Reply.outcome_since_andThen _ _ _
      obtain ⟨_, reads, closes⟩ := Reply.of_andThen_ok (same.symm.trans succeeds)
      rw [result_closeStatement] at closes
      cases closes
      exact grows inner reads
  | ret inner =>
      rw [List.cons_append, statement] at succeeds
      obtain ⟨_, reads, closes⟩ := Reply.of_andThen_ok succeeds
      rw [result_closeStatement] at closes
      cases closes
      exact grows inner reads
  | evaluate inner =>
      have starts := inner.startsExpression rest
      rw [statement] at succeeds
      split at succeeds
      · next keyword => simp [keyword, TokenKind.startsExpression] at starts
      · next keyword => simp [keyword, TokenKind.startsExpression] at starts
      · obtain ⟨_, reads, closes⟩ := Reply.of_andThen_ok succeeds
        rw [result_closeStatement] at closes
        cases closes
        exact grows inner reads

/-- A program without a diagnostic begins with the statement that was read first. -/
theorem result_statement_of_parse {tokens : List Token} {first : Statement}
    {program : List Statement} (parsed : parse tokens = ⟨first :: program, []⟩) :
    (statement tokens).result = .ok first := by
  rw [parse] at parsed
  split at parsed
  · cases parsed
  · dsimp only at parsed
    split at parsed
    · next value read =>
      cases congrArg Parsed.program parsed
      exact read
    · next cause _ =>
      have none : _ ++ cause :: _ = [] := congrArg Parsed.diagnostics parsed
      simp at none

/-! ## The parser and the grammar -/

/-- **The parser is complete for the grammar.** Every spelling of a program is read as that
program, without a diagnostic. The one thing that the grammar asks of two statements without a
semicolon between them cannot be dropped: where the tokens after a statement begin with a minus
sign, an opening parenthesis or an opening bracket, the tokens are not read as that statement and
others after it. -/
theorem grammar_complete :
    (∀ (program : Program) (tokens : List Token), Spelling (.statements program) tokens →
      parse tokens = ⟨program, []⟩) ∧
    (∀ (first : Statement) (tokens rest : List Token), Spelling (.statement first) tokens →
      Cursor.kind rest ∈ TokenKind.ambiguousStarts →
      ∀ program : Program, parse (tokens ++ rest) ≠ ⟨first :: program, []⟩) := by
  refine ⟨fun _ _ spelling => parse_of_spelling spelling, ?_⟩
  intro first tokens rest spelling ambiguous program parsed
  exact spelling.statement_ne ambiguous (result_statement_of_parse parsed)

/-- `let a = !-5(b) - c * (d) return a;` is read as it is spelled, and `a (b)` is not two
statements. -/
theorem grammar_complete_negative_callee :
    parse [⟨.letWord, "let"⟩, ⟨.identifier, "a"⟩, ⟨.assign, "="⟩, ⟨.bang, "!"⟩, ⟨.minus, "-"⟩,
        ⟨.integer, "5"⟩, ⟨.leftParen, "("⟩, ⟨.identifier, "b"⟩, ⟨.rightParen, ")"⟩, ⟨.minus, "-"⟩,
        ⟨.identifier, "c"⟩, ⟨.asterisk, "*"⟩, ⟨.leftParen, "("⟩, ⟨.identifier, "d"⟩,
        ⟨.rightParen, ")"⟩, ⟨.returnWord, "return"⟩, ⟨.identifier, "a"⟩, ⟨.semicolon, ";"⟩] =
      ⟨[.bind "a" (.binary .subtract (.unary .not (.call (.integer (-5)) [.identifier "b"]))
          (.binary .multiply (.identifier "c") (.identifier "d"))),
        .ret (.identifier "a")], []⟩ ∧
    ∀ program : Program,
      parse [⟨.identifier, "a"⟩, ⟨.leftParen, "("⟩, ⟨.identifier, "b"⟩, ⟨.rightParen, ")"⟩] ≠
        ⟨.evaluate (.identifier "a") :: program, []⟩ := by
  have five := @Spelling.negative "5" "-" 5 (by decide) (by decide)
  have call := @Spelling.call _ _ _ _ "(" ")" five (.oneExpression (.identifier "b"))
  have denied := @Spelling.unary .not _ _ _ "!" (by decide) (by decide) call
  have group := @Spelling.parenthesized _ _ _ "(" ")" (.identifier "d")
  have product := @Spelling.binary .multiply _ _ _ _ _ _ "*" (by decide) (by decide)
    (.identifier "c") group
  have difference := @Spelling.binary .subtract _ _ _ _ _ _ "-" (by decide) (by decide) denied
    product
  have binding := @Spelling.bind _ "a" _ _ "let" "=" difference
  have returning := @Spelling.closed _ _ _ _ ";"
    (@Spelling.ret _ _ _ "return" (.identifier "a")) .noStatements
  refine ⟨grammar_complete.1 _ _ (.unclosed binding returning (by decide)), ?_⟩
  exact grammar_complete.2 _ _ _ (.evaluate (.identifier "a")) (by decide)

end MonkeyLang
