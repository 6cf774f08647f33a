import MonkeyLang.Proofs.Parsing.Boundary
import MonkeyLang.Proofs.Parsing.Guarantee
import MonkeyLang.Proofs.Parsing.Production

/-!
# Statements apart from each other

Statements do not disturb each other. Well-formed statements that are closed off
by a semicolon are read alike whatever follows them, be it malformed or not. A
malformed statement without braces costs one diagnostic and is left out up to
its semicolon, and everything after it is read as if it stood alone. Inside a
block the same holds, and there the closing brace ends a malformed statement
too.

For well-formed statements this is the locality of productions, since no
expression stops on a semicolon. For malformed ones it is the fact that a
statement without braces is decided by its own tokens, together with the place
at which the parser recovers.
-/

set_option autoImplicit false

namespace MonkeyLang

/-! ## Lists of tokens -/

/-- No token stands for the end of the input. -/
def EndFree (tokens : List Token) : Prop :=
  ∀ token ∈ tokens, token.kind ≠ .endOfInput

/-- There are no tokens, or the last one is a semicolon. -/
def ClosedOff (tokens : List Token) : Prop :=
  ∀ token ∈ tokens.getLast?, token.kind = .semicolon

/-- The tokens of at most one statement, in which there are no braces. -/
def Fragment (tokens : List Token) : Prop :=
  ∀ token ∈ tokens, token.kind ≠ .leftBrace ∧ token.kind ∉ TokenKind.boundaries

instance (tokens : List Token) : Decidable (EndFree tokens) :=
  inferInstanceAs (Decidable (∀ token ∈ tokens, token.kind ≠ .endOfInput))

instance (tokens : List Token) : Decidable (ClosedOff tokens) :=
  inferInstanceAs (Decidable (∀ token ∈ tokens.getLast?, token.kind = .semicolon))

instance (tokens : List Token) : Decidable (Fragment tokens) :=
  inferInstanceAs (Decidable
    (∀ token ∈ tokens, token.kind ≠ .leftBrace ∧ token.kind ∉ TokenKind.boundaries))

theorem EndFree.kind {tokens : Cursor} (endFree : EndFree tokens) (some_tokens : tokens ≠ []) :
    tokens.kind ≠ .endOfInput := by
  cases tokens with
  | nil => exact absurd rfl some_tokens
  | cons token rest => exact endFree token List.mem_cons_self

theorem EndFree.of_suffix {tokens after : List Token} (endFree : EndFree tokens)
    (suffix : after <:+ tokens) : EndFree after :=
  fun token mem => endFree token (suffix.mem mem)

theorem ClosedOff.of_suffix {tokens after : List Token} (closed : ClosedOff tokens)
    (suffix : after <:+ tokens) : ClosedOff after := by
  obtain ⟨before, rfl⟩ := suffix
  intro token last
  refine closed token ?_
  rw [List.getLast?_append, Option.mem_def.mp last]
  rfl

theorem Fragment.unbraced {tokens : List Token} (fragment : Fragment tokens) : Unbraced tokens :=
  fun token mem => (fragment token mem).1

theorem Fragment.of_suffix {tokens after : List Token} (fragment : Fragment tokens)
    (suffix : after <:+ tokens) : Fragment after :=
  fun token mem => fragment token (suffix.mem mem)

/-! ## Well-formed statements -/

theorem ensures_sentence_inside (cursor : Cursor) :
    (sentence cursor).Ensures fun _ stop => stop.Inside := by
  have inside : ∀ start : Cursor, (expression .lowest start).Ensures fun _ stop => stop.Inside :=
    ensures_expression_inside .lowest
  by_cases isLet : cursor.kind = .letWord
  · rw [sentence_of_let isLet]
    refine Reply.ensures_andThen fun _ _ _ => Reply.ensures_andThen fun assigned _ _ => ?_
    exact (inside assigned.next).map.since _
  · by_cases isReturn : cursor.kind = .returnWord
    · rw [sentence_of_return isReturn]
      exact (inside cursor.next).map.since _
    · rw [sentence_of_other isLet isReturn]
      exact (inside cursor).map

/-- A statement that was read is a sentence before an optional semicolon. -/
theorem of_reads_statement {cursor after : Cursor} {first : Statement}
    (reads : (statement cursor).Reads first after) :
    (sentence cursor).result = .ok first ∧ (sentence cursor).recorded = [] ∧
      after = (sentence cursor).stop.next.pastSemicolon := by
  rw [statement_eq] at reads
  cases came : (sentence cursor).result with
  | error cause =>
      simp [Reply.Reads, Reply.outcome, Reply.andThen, came] at reads
  | ok value =>
      have closes := reads_closeStatement (sentence cursor).stop value
      simp only [Reply.Reads, Reply.outcome, Prod.mk.injEq] at closes
      simp only [Reply.Reads, Reply.outcome, Reply.andThen, came, Prod.mk.injEq, closes,
        List.append_nil] at reads
      obtain ⟨⟨⟩, recorded, rfl⟩ := reads
      exact ⟨rfl, recorded, rfl⟩

/-- A statement is read alike before other tokens, if it ends in a semicolon or a brace closes the
block after it. -/
theorem reads_statement_append {tokens rest after : Cursor} {first : Statement}
    (reads : (statement tokens).Reads first after)
    (apart : ClosedOff tokens ∨ rest.kind = .rightBrace) :
    (statement (tokens ++ rest)).Reads first (after ++ rest) := by
  obtain ⟨came, recorded, rfl⟩ := of_reads_statement reads
  have inside := ensures_sentence_inside tokens first came
  obtain ⟨used, whole⟩ := (sentence tokens).forward
  obtain ⟨last, more, stops⟩ : ∃ last more, (sentence tokens).stop = last :: more := by
    cases stops : (sentence tokens).stop with
    | nil =>
        rw [stops] at inside
        exact absurd rfl inside.2
    | cons last more => exact ⟨last, more, rfl⟩
  rw [stops] at inside whole ⊢
  -- With nothing after the sentence, a brace stands where the input ended.
  have ends : more = [] → rest.kind = .rightBrace := by
    rintro rfl
    refine apart.resolve_left fun closed => inside.1 (closed last ?_)
    rw [← whole, List.getLast?_append]
    rfl
  have allows : (sentence tokens).Allows (last :: (more ++ rest)) := by
    rw [Reply.Allows, stops]
    refine ⟨rfl, ?_⟩
    cases more with
    | cons next others => exact .inl rfl
    | nil =>
        refine .inr ⟨⟨by rw [came]; rfl, recorded⟩,
          (by decide : TokenKind.endOfInput ∈ TokenKind.lastEnds), ?_⟩
        rw [Cursor.peek, Cursor.next, List.tail_cons, List.nil_append, ends rfl]
        decide
  have read := localAt_sentence tokens used _ (by rw [stops, whole]) allows
  have halves : tokens ++ rest = used ++ last :: (more ++ rest) := by
    rw [← whole, List.append_assoc, List.cons_append]
  have past : Cursor.pastSemicolon (more ++ rest) = Cursor.pastSemicolon more ++ rest := by
    cases more with
    | cons next others =>
        have kind : Cursor.kind (next :: others ++ rest) = Cursor.kind (next :: others) := rfl
        rw [Cursor.pastSemicolon, Cursor.pastSemicolon, kind]
        split <;> rfl
    | nil =>
        rw [List.nil_append, Cursor.pastSemicolon, if_neg (by rw [ends rfl]; decide)]
        rfl
  simp only [Reply.parts, Prod.mk.injEq] at read
  rw [statement_eq, halves]
  have reads : (sentence (used ++ last :: (more ++ rest))).Reads first (more ++ rest) := by
    simp only [Reply.Reads, Reply.outcome, read.1, read.2.1, came, recorded]
    rw [read.2.2]
    rfl
  refine reads.outcome_andThen fun stop _ next => ?_
  have closes := reads_closeStatement stop first
  rw [next, past] at closes
  exact closes

/-! ## Programs and blocks -/

/-- No statement begins on a boundary. -/
theorem kind_not_mem_of_reads {cursor after : Cursor} {first : Statement}
    (reads : (statement cursor).Reads first after) : cursor.kind ∉ TokenKind.boundaries := by
  intro ends
  have parts := parts_operand_of_boundary ends
  simp only [Reply.parts, Prod.mk.injEq] at parts
  have other : cursor.kind ≠ .letWord ∧ cursor.kind ≠ .returnWord := by
    revert ends
    cases cursor.kind <;> decide
  have came := (of_reads_statement reads).1
  rw [sentence_of_other other.1 other.2, expression] at came
  simp only [Reply.map, Reply.andThen, parts.1] at came
  cases came

/-- A program without a diagnostic begins with a statement that was read. -/
theorem reads_of_parse {tokens : Cursor} (more : tokens.kind ≠ .endOfInput)
    (clean : (parse tokens).diagnostics = []) :
    ∃ first after, (statement tokens).Reads first after ∧ after <:+ tokens ∧
      after.length < tokens.length ∧ parse tokens = (parse after).keep first [] := by
  rw [parse, dif_neg more] at clean ⊢
  cases came : (statement tokens).result with
  | error cause => simp [came, Parsed.skip] at clean
  | ok first =>
      simp only [came, Parsed.keep, List.append_eq_nil_iff] at clean
      have ahead := (statement tokens).forward
      refine ⟨first, (statement tokens).stop.next, ?_, (Cursor.next_suffix _).trans ahead, ?_, ?_⟩
      · rw [Reply.Reads, Reply.outcome, came, clean.1]
      · have shorter := Cursor.length_next_lt more
        have le := ahead.length_le
        rw [Cursor.length_next] at shorter ⊢
        omega
      · simp only [came, clean.1]

theorem kind_ne_of_reads {cursor after : Cursor} {first : Statement}
    (reads : (statement cursor).Reads first after) :
    cursor.kind ≠ .rightBrace ∧ cursor.kind ≠ .endOfInput := by
  have inside := kind_not_mem_of_reads reads
  revert inside
  cases cursor.kind <;> decide

/-- **Statements that are closed off are read alike whatever follows them.** -/
theorem parse_append {tokens : List Token} (endFree : EndFree tokens) (closed : ClosedOff tokens)
    (clean : (parse tokens).diagnostics = []) (rest : List Token) :
    parse (tokens ++ rest) =
      ⟨(parse tokens).program ++ (parse rest).program, (parse rest).diagnostics⟩ := by
  by_cases empty : tokens = []
  · rw [empty, parse_nil]
    rfl
  obtain ⟨first, after, reads, suffix, shorter, parsed⟩ :=
    reads_of_parse (endFree.kind empty) clean
  have more : Cursor.kind (tokens ++ rest) ≠ .endOfInput := by
    obtain ⟨token, others, rfl⟩ := List.exists_cons_of_ne_nil empty
    exact endFree token List.mem_cons_self
  rw [parsed] at clean ⊢
  have ih := parse_append (endFree.of_suffix suffix) (closed.of_suffix suffix) clean rest
  rw [parse_of_reads more (reads_statement_append reads (.inl closed)), ih]
  rfl
termination_by tokens.length

/-- The same inside a block, where a closing brace may follow the last statement at once. -/
theorem outcome_block_append {tokens rest : Cursor} (endFree : EndFree tokens)
    (apart : ClosedOff tokens ∨ rest.kind = .rightBrace)
    (clean : (parse tokens).diagnostics = []) :
    (block (tokens ++ rest)).outcome =
      ((block rest).map ((parse tokens).program ++ ·)).outcome := by
  by_cases empty : tokens = []
  · rw [empty, parse_nil, List.nil_append]
    simp only [Reply.outcome, Reply.map, List.nil_append]
    cases (block rest).result <;> rfl
  obtain ⟨first, after, reads, suffix, shorter, parsed⟩ :=
    reads_of_parse (endFree.kind empty) clean
  rw [parsed] at clean
  have ih := @outcome_block_append after rest (endFree.of_suffix suffix)
    (apart.imp_left fun closed => closed.of_suffix suffix) clean
  have reads := reads_statement_append reads apart
  have inside := kind_ne_of_reads reads
  rw [block, if_neg inside.1, dif_neg inside.2]
  refine reads.outcome_orSkip fun stop _ next => ?_
  dsimp only
  rw [Reply.outcome_since, next, parsed]
  simp only [Reply.outcome, Reply.map, Prod.mk.injEq] at ih ⊢
  rw [ih.1, ih.2.1, ih.2.2]
  refine ⟨?_, rfl, rfl⟩
  cases (block rest).result <;> rfl
termination_by tokens.length

/-! ## Malformed statements -/

/-- Among the tokens of a fragment there is no boundary before the last one. -/
theorem not_atBoundary {token : Token} {rest : Cursor} (inside : token.kind ∉ TokenKind.boundaries)
    (further : rest.kind ≠ .rightBrace ∧ rest.kind ≠ .endOfInput) :
    ¬ Cursor.atBoundary (token :: rest) = true := by
  have kind : Cursor.kind (token :: rest) = token.kind := rfl
  have peek : Cursor.peek (token :: rest) = rest.kind := rfl
  simp only [TokenKind.boundaries, List.mem_cons, List.not_mem_nil, or_false, not_or] at inside
  simp [Cursor.atBoundary, kind, peek, inside, further]

theorem recover_of_semicolon {left : List Token} (fragment : Fragment left) {rest : Cursor}
    (semicolon : rest.kind = .semicolon) : Cursor.recover (left ++ rest) = rest := by
  induction left with
  | nil => exact Cursor.recover_of_atBoundary (by simp [Cursor.atBoundary, semicolon])
  | cons token more ih =>
      have inner : Fragment more := fragment.of_suffix (List.suffix_cons token more)
      have further : Cursor.kind (more ++ rest) ≠ .rightBrace ∧
          Cursor.kind (more ++ rest) ≠ .endOfInput := by
        cases more with
        | nil =>
            rw [List.nil_append, semicolon]
            decide
        | cons second others =>
            have inside := (inner second List.mem_cons_self).2
            revert inside
            change second.kind ∉ TokenKind.boundaries →
              second.kind ≠ .rightBrace ∧ second.kind ≠ .endOfInput
            cases second.kind <;> decide
      rw [List.cons_append, Cursor.recover,
        if_neg (not_atBoundary (fragment token List.mem_cons_self).2 further)]
      exact ih inner

/-- Before a closing brace the parser recovers on the brace or on the token before it. -/
theorem recover_of_rightBrace {left : List Token} (fragment : Fragment left) {rest : Cursor}
    (brace : rest.kind = .rightBrace) : Cursor.recover (left ++ rest) = rest ∨
      ∃ token, token.kind ≠ .rightBrace ∧ Cursor.recover (left ++ rest) = token :: rest := by
  induction left with
  | nil => exact .inl (Cursor.recover_of_atBoundary (by simp [Cursor.atBoundary, brace]))
  | cons token more ih =>
      have inner : Fragment more := fragment.of_suffix (List.suffix_cons token more)
      have inside := (fragment token List.mem_cons_self).2
      cases more with
      | nil =>
          refine .inr ⟨token, fun same => inside (same ▸ by decide), ?_⟩
          exact Cursor.recover_of_atBoundary
            (by simp [Cursor.atBoundary, Cursor.peek, Cursor.next, brace])
      | cons second others =>
          have further : Cursor.kind (second :: others ++ rest) ≠ .rightBrace ∧
              Cursor.kind (second :: others ++ rest) ≠ .endOfInput := by
            have inside := (inner second List.mem_cons_self).2
            revert inside
            change second.kind ∉ TokenKind.boundaries →
              second.kind ≠ .rightBrace ∧ second.kind ≠ .endOfInput
            cases second.kind <;> decide
          rw [List.cons_append, Cursor.recover, if_neg (not_atBoundary inside further)]
          exact ih inner

/-- A program of which nothing is read begins with no statement. -/
theorem result_ne_of_parse {tokens : Cursor} (more : tokens.kind ≠ .endOfInput)
    (nothing : (parse tokens).program = []) (first : Statement) :
    (statement tokens).result ≠ .ok first := by
  intro came
  rw [parse, dif_neg more] at nothing
  simp only [came, Parsed.keep] at nothing
  cases nothing

theorem Fragment.kind_append {tokens rest : List Token} (fragment : Fragment tokens)
    {kind : TokenKind} (ends : kind ∈ TokenKind.boundaries)
    (other : Cursor.kind rest ≠ kind) : Cursor.kind (tokens ++ rest) ≠ kind := by
  cases tokens with
  | nil => exact other
  | cons token more =>
      intro same
      have here : token.kind = kind := same
      exact (fragment token List.mem_cons_self).2 (here ▸ ends)

section Malformed

variable {tokens left : List Token} {cause : TokenKind → Diagnostic}

/-- A malformed statement is left out up to its semicolon. -/
theorem parse_of_failsBy (fragment : Fragment tokens)
    (fails : FailsBy statement tokens cause left) (text : String) (rest : List Token) :
    parse (tokens ++ ⟨.semicolon, text⟩ :: rest) =
      ⟨(parse rest).program, cause .semicolon :: (parse rest).diagnostics⟩ := by
  have parts := fails (⟨.semicolon, text⟩ :: rest)
    (by decide : TokenKind.semicolon ∈ TokenKind.boundaries)
  have found := recover_of_semicolon (fragment.of_suffix fails.suffix)
    (rfl : Cursor.kind (⟨.semicolon, text⟩ :: rest) = .semicolon)
  simp only [Reply.parts, Prod.mk.injEq] at parts
  have more : Cursor.kind (tokens ++ ⟨.semicolon, text⟩ :: rest) ≠ .endOfInput :=
    fragment.kind_append (by decide) (by decide : TokenKind.semicolon ≠ .endOfInput)
  rw [parse, dif_neg more]
  simp only [parts.1, parts.2.1, Parsed.skip, List.nil_append]
  rw [parts.2.2, found]
  rfl

/-- The same inside a block. -/
theorem outcome_block_of_failsBy (fragment : Fragment tokens)
    (fails : FailsBy statement tokens cause left) (text : String) (rest : List Token) :
    (block (tokens ++ ⟨.semicolon, text⟩ :: rest)).outcome =
      ((block rest).result, cause .semicolon :: (block rest).recorded,
        (block rest).stop.next) := by
  have parts := fails (⟨.semicolon, text⟩ :: rest)
    (by decide : TokenKind.semicolon ∈ TokenKind.boundaries)
  have found := recover_of_semicolon (fragment.of_suffix fails.suffix)
    (rfl : Cursor.kind (⟨.semicolon, text⟩ :: rest) = .semicolon)
  simp only [Reply.parts, Prod.mk.injEq] at parts
  have more : Cursor.kind (tokens ++ ⟨.semicolon, text⟩ :: rest) ≠ .endOfInput :=
    fragment.kind_append (by decide) (by decide : TokenKind.semicolon ≠ .endOfInput)
  have further : Cursor.kind (tokens ++ ⟨.semicolon, text⟩ :: rest) ≠ .rightBrace :=
    fragment.kind_append (by decide) (by decide : TokenKind.semicolon ≠ .rightBrace)
  rw [block, if_neg further, dif_neg more]
  simp only [Reply.orSkip, Reply.outcome, parts.1, parts.2.1, List.nil_append]
  rw [parts.2.2, found]
  rfl

/-- A malformed statement before a closing brace is left out and ends the block. -/
theorem outcome_block_of_failsBy_last (fragment : Fragment tokens) (some_tokens : tokens ≠ [])
    (fails : FailsBy statement tokens cause left) (text : String) (rest : List Token) :
    (block (tokens ++ ⟨.rightBrace, text⟩ :: rest)).outcome =
      (.ok [], [cause .rightBrace], rest) := by
  have parts := fails (⟨.rightBrace, text⟩ :: rest)
    (by decide : TokenKind.rightBrace ∈ TokenKind.boundaries)
  have found := recover_of_rightBrace (fragment.of_suffix fails.suffix)
    (rfl : Cursor.kind (⟨.rightBrace, text⟩ :: rest) = .rightBrace)
  simp only [Reply.parts, Prod.mk.injEq] at parts
  have further : Cursor.kind (tokens ++ ⟨.rightBrace, text⟩ :: rest) ≠ .rightBrace := by
    obtain ⟨token, others, rfl⟩ := List.exists_cons_of_ne_nil some_tokens
    intro same
    have here : token.kind = .rightBrace := same
    exact (fragment token List.mem_cons_self).2 (here ▸ by decide)
  have more : Cursor.kind (tokens ++ ⟨.rightBrace, text⟩ :: rest) ≠ .endOfInput :=
    fragment.kind_append (by decide) (by decide : TokenKind.rightBrace ≠ .endOfInput)
  rw [block, if_neg further, dif_neg more]
  simp only [Reply.orSkip, Reply.outcome, parts.1, parts.2.1, List.nil_append]
  rw [parts.2.2]
  rcases found with found | ⟨token, other, found⟩
  · -- The block ends on the brace where the parser recovered.
    rw [found]
    rfl
  · -- The parser recovered one token before the brace, with which the block is entered again.
    have closed : Cursor.kind (token :: ⟨.rightBrace, text⟩ :: rest) ≠ .rightBrace := other
    have closes : (block (Cursor.next (token :: ⟨.rightBrace, text⟩ :: rest))).Reads [] rest :=
      reads_block_nil text rest
    simp only [Reply.Reads, Reply.outcome, Prod.mk.injEq] at closes
    rw [found, if_neg closed]
    simp only [Reply.since, closes]
    rfl

end Malformed

/-! ## Function literals -/

section

variable {α β : Type} {cursor after : Cursor} {reply : Reply cursor α} {value : α}
  {recorded : List Diagnostic}

theorem Reply.outcome_map_of_ok (came : reply.outcome = (.ok value, recorded, after))
    (f : α → β) : (reply.map f).outcome = (.ok (f value), recorded, after) := by
  simp only [Reply.outcome, Prod.mk.injEq] at came
  simp only [Reply.outcome, Reply.map, came]
  rfl

/-- What was recorded before a clean success stays recorded. -/
theorem Reply.outcome_andThen_of_ok {last : Cursor} {value' : β}
    {following : (stop : Cursor) → stop <:+ cursor → α → Reply stop β}
    (came : reply.outcome = (.ok value, recorded, after))
    (reads : ∀ stop ahead, stop.next = after → (following stop ahead value).Reads value' last) :
    (reply.andThen following).outcome = (.ok value', recorded, last) := by
  simp only [Reply.outcome, Prod.mk.injEq] at came
  have reads := reads reply.stop reply.forward came.2.2
  simp only [Reply.Reads, Reply.outcome, Prod.mk.injEq] at reads
  simp only [Reply.andThen, Reply.outcome, came.1, came.2.1, reads, List.append_nil]

end

/-- A block from which malformed statements were left out is still the body of its function. -/
theorem parse_function_of_block {inside : Cursor} {body : Block} {recorded : List Diagnostic}
    (came : (block inside).outcome = (.ok body, recorded, [])) (a b c d : String) :
    parse (⟨.functionWord, a⟩ :: ⟨.leftParen, b⟩ :: ⟨.rightParen, c⟩ :: ⟨.leftBrace, d⟩ ::
      inside) = ⟨[.evaluate (.function [] body)], recorded⟩ := by
  let word : Token := ⟨.functionWord, a⟩
  let header : Cursor := ⟨.leftParen, b⟩ :: ⟨.rightParen, c⟩ :: ⟨.leftBrace, d⟩ :: inside
  have parts : (callable word header).outcome = (.ok ([], body), recorded, []) := by
    rw [callable]
    refine outcome_expect_andThen rfl fun _ => ?_
    refine (reads_parameterList_nil rfl).outcome_andThen fun headed _ next => ?_
    refine outcome_expect_andThen next fun _ => ?_
    exact Reply.outcome_map_of_ok came _
  have literal : (operand (word :: header)).outcome = (.ok (.function [] body), recorded, []) := by
    rw [operand]
    exact Reply.outcome_map_of_ok parts _
  have whole : (expression .lowest (word :: header)).outcome =
      (.ok (.function [] body), recorded, []) := by
    rw [expression]
    refine Reply.outcome_andThen_of_ok literal fun stop _ next => ?_
    have ends : ¬ Strength.lowest < Strength.ofKind stop.peek := by
      rw [Cursor.peek, next]
      decide
    exact next ▸ reads_continuation ends _
  have first : (statement (word :: header)).outcome =
      (.ok (.evaluate (.function [] body)), recorded, []) := by
    rw [statement]
    refine Reply.outcome_andThen_of_ok whole fun stop _ next => ?_
    have closes := reads_closeStatement stop (Statement.evaluate (.function [] body))
    rw [next] at closes
    exact closes
  simp only [Reply.outcome, Prod.mk.injEq] at first
  have more : Cursor.kind (word :: header) ≠ .endOfInput :=
    (by decide : TokenKind.functionWord ≠ .endOfInput)
  rw [parse, dif_neg more]
  simp only [word, header] at first
  simp only [first, Parsed.keep, parse_nil, List.append_nil]

/-! ## Isolation -/

/-- Tokens of which nothing is read up to a semicolon fail to be a statement. -/
theorem failsBy_of_unread {tokens : List Token} (fragment : Fragment tokens) {text : String}
    (unread : (parse (tokens ++ [⟨.semicolon, text⟩])).program = []) :
    ∃ cause left, FailsBy statement tokens cause left := by
  have more : Cursor.kind (tokens ++ [⟨.semicolon, text⟩]) ≠ .endOfInput :=
    fragment.kind_append (by decide) (by decide : TokenKind.semicolon ≠ .endOfInput)
  exact failsBy_statement fragment.unbraced (by decide : TokenKind.semicolon ∈ _)
    (result_ne_of_parse more unread)

/-- **A malformed statement costs one diagnostic, whatever follows its semicolon.** -/
theorem parse_unread {tokens : List Token} (fragment : Fragment tokens) {text : String}
    (unread : (parse (tokens ++ [⟨.semicolon, text⟩])).program = []) :
    ∃ cause, (parse (tokens ++ [⟨.semicolon, text⟩])).diagnostics = [cause] ∧
      ∀ rest, parse (tokens ++ ⟨.semicolon, text⟩ :: rest) =
        ⟨(parse rest).program, cause :: (parse rest).diagnostics⟩ := by
  obtain ⟨cause, left, fails⟩ := failsBy_of_unread fragment unread
  refine ⟨cause .semicolon, ?_, parse_of_failsBy fragment fails text⟩
  rw [parse_of_failsBy fragment fails text [], parse_nil]

section Function

variable {before tokens after : List Token} {text : String}

/-- **A malformed statement in a body costs one diagnostic, and the statements around it stay.** -/
theorem parse_function_unread (endFree : EndFree before) (closed : ClosedOff before)
    (clean : (parse before).diagnostics = []) (fragment : Fragment tokens)
    (unread : (parse (tokens ++ [⟨.semicolon, text⟩])).program = [])
    (endFree' : EndFree after) (clean' : (parse after).diagnostics = []) (a b c d e : String) :
    ∃ cause, parse (⟨.functionWord, a⟩ :: ⟨.leftParen, b⟩ :: ⟨.rightParen, c⟩ ::
        ⟨.leftBrace, d⟩ :: (before ++ (tokens ++ ⟨.semicolon, text⟩ ::
          (after ++ [⟨.rightBrace, e⟩])))) =
      ⟨[.evaluate (.function [] ((parse before).program ++ (parse after).program))], [cause]⟩ := by
  obtain ⟨cause, left, fails⟩ := failsBy_of_unread fragment unread
  refine ⟨cause .semicolon, parse_function_of_block ?_ a b c d⟩
  have brace : Cursor.kind [⟨.rightBrace, e⟩] = .rightBrace := rfl
  have tail : (block (after ++ [⟨.rightBrace, e⟩])).outcome =
      (.ok (parse after).program, [], []) := by
    rw [outcome_block_append endFree' (.inr brace) clean']
    exact ((reads_block_nil e []).map _).trans (by rw [List.append_nil])
  have body := outcome_block_of_failsBy fragment fails text (after ++ [⟨.rightBrace, e⟩])
  simp only [Reply.outcome, Prod.mk.injEq] at tail
  rw [tail.1, tail.2.1, tail.2.2] at body
  rw [outcome_block_append endFree (.inl closed) clean]
  exact Reply.outcome_map_of_ok body _

/-- **The same without a semicolon, where the closing brace ends the malformed statement.** -/
theorem parse_function_unread_last (endFree : EndFree before) (closed : ClosedOff before)
    (clean : (parse before).diagnostics = []) (fragment : Fragment tokens)
    (some_tokens : tokens ≠ [])
    (unread : (parse (tokens ++ [⟨.semicolon, text⟩])).program = []) (a b c d e : String) :
    ∃ cause, parse (⟨.functionWord, a⟩ :: ⟨.leftParen, b⟩ :: ⟨.rightParen, c⟩ ::
        ⟨.leftBrace, d⟩ :: (before ++ (tokens ++ [⟨.rightBrace, e⟩]))) =
      ⟨[.evaluate (.function [] (parse before).program)], [cause]⟩ := by
  obtain ⟨cause, left, fails⟩ := failsBy_of_unread fragment unread
  refine ⟨cause .rightBrace, parse_function_of_block ?_ a b c d⟩
  have body := outcome_block_of_failsBy_last fragment some_tokens fails e []
  rw [outcome_block_append endFree (.inl closed) clean, Reply.outcome_map_of_ok body,
    List.append_nil]

end Function

/-- **Statements do not disturb each other.** What is well formed and closed off is read alike
whatever follows it. A malformed statement without braces costs one diagnostic and is left out up
to its semicolon, on the top level and in the body of a function, where the closing brace ends it
as well. -/
theorem statements_isolated :
    (∀ before : List Token, EndFree before → ClosedOff before → (parse before).diagnostics = [] →
      ∀ rest, parse (before ++ rest) =
        ⟨(parse before).program ++ (parse rest).program, (parse rest).diagnostics⟩) ∧
    (∀ (malformed : List Token) (text : String), Fragment malformed →
      (parse (malformed ++ [⟨.semicolon, text⟩])).program = [] →
      ∃ cause, (parse (malformed ++ [⟨.semicolon, text⟩])).diagnostics = [cause] ∧
        ∀ rest, parse (malformed ++ ⟨.semicolon, text⟩ :: rest) =
          ⟨(parse rest).program, cause :: (parse rest).diagnostics⟩) ∧
    ∀ (before malformed after : List Token) (text a b c d e : String),
      EndFree before → ClosedOff before → (parse before).diagnostics = [] →
      Fragment malformed → malformed ≠ [] →
      (parse (malformed ++ [⟨.semicolon, text⟩])).program = [] →
      EndFree after → (parse after).diagnostics = [] →
      (∃ cause, parse (⟨.functionWord, a⟩ :: ⟨.leftParen, b⟩ :: ⟨.rightParen, c⟩ ::
          ⟨.leftBrace, d⟩ :: (before ++ (malformed ++ ⟨.semicolon, text⟩ ::
            (after ++ [⟨.rightBrace, e⟩])))) =
        ⟨[.evaluate (.function [] ((parse before).program ++ (parse after).program))],
          [cause]⟩) ∧
      ∃ cause, parse (⟨.functionWord, a⟩ :: ⟨.leftParen, b⟩ :: ⟨.rightParen, c⟩ ::
          ⟨.leftBrace, d⟩ :: (before ++ (malformed ++ [⟨.rightBrace, e⟩]))) =
        ⟨[.evaluate (.function [] (parse before).program)], [cause]⟩ := by
  refine ⟨fun _ endFree closed clean => parse_append endFree closed clean,
    fun _ _ fragment unread => parse_unread fragment unread, ?_⟩
  intro before malformed after text a b c d e endFree closed clean fragment some_tokens unread
    endFree' clean'
  exact ⟨parse_function_unread endFree closed clean fragment unread endFree' clean' a b c d e,
    parse_function_unread_last endFree closed clean fragment some_tokens unread a b c d e⟩

/-- A number in place of a name, between a binding and an identifier. -/
theorem statements_isolated_unnamed :
    let before : List Token := [⟨.letWord, "let"⟩, ⟨.identifier, "x"⟩, ⟨.assign, "="⟩,
      ⟨.integer, "1"⟩, ⟨.semicolon, ";"⟩]
    let malformed : List Token := [⟨.letWord, "let"⟩, ⟨.integer, "5"⟩]
    let semicolon : Token := ⟨.semicolon, ";"⟩
    let function := fun inside : List Token => ⟨.functionWord, "fn"⟩ :: ⟨.leftParen, "("⟩ ::
      ⟨.rightParen, ")"⟩ :: ⟨.leftBrace, "\x7b"⟩ :: (before ++ (malformed ++ inside))
    parse (before ++ malformed) =
        ⟨[.bind "x" (.integer 1)], [.unexpected .identifier .integer]⟩ ∧
      (∃ cause, (parse (malformed ++ [semicolon])).diagnostics = [cause] ∧
        ∀ rest, parse (malformed ++ semicolon :: rest) =
          ⟨(parse rest).program, cause :: (parse rest).diagnostics⟩) ∧
      (∃ cause, parse (function [semicolon, ⟨.identifier, "y"⟩, ⟨.rightBrace, "\x7d"⟩]) =
        ⟨[.evaluate (.function [] [.bind "x" (.integer 1), .evaluate (.identifier "y")])],
          [cause]⟩) ∧
      ∃ cause, parse (function [⟨.rightBrace, "\x7d"⟩]) =
        ⟨[.evaluate (.function [] [.bind "x" (.integer 1)])], [cause]⟩ := by
  intro before malformed semicolon function
  have endFree : EndFree before := by decide
  have closed : ClosedOff before := by decide
  have fragment : Fragment malformed := by decide
  have read : parse before = ⟨[.bind "x" (.integer 1)], []⟩ := by with_unfolding_all rfl
  have clean : (parse before).diagnostics = [] := by rw [read]
  have unread : (parse (malformed ++ [semicolon])).program = [] := by with_unfolding_all rfl
  have last : parse [⟨.identifier, "y"⟩] = ⟨[.evaluate (.identifier "y")], []⟩ := by
    with_unfolding_all rfl
  have ended : parse malformed = ⟨[], [.unexpected .identifier .integer]⟩ := by
    with_unfolding_all rfl
  obtain ⟨apart, left_out, inside⟩ := statements_isolated
  have apart := apart before endFree closed clean malformed
  have inside := inside before malformed [⟨.identifier, "y"⟩] ";" "fn" "(" ")" "\x7b" "\x7d" endFree
    closed clean fragment (List.cons_ne_nil _ _) unread (by decide) (by rw [last])
  rw [read, ended] at apart
  rw [read, last] at inside
  exact ⟨apart, left_out malformed ";" fragment unread, inside⟩

end MonkeyLang
