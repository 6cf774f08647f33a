import Mathlib.Data.List.Basic
import MonkeyLang.Proofs.Parsing.Isolation
import MonkeyLang.Proofs.Parsing.Nesting

/-!
# What is left out of a malformed statement

A malformed statement whose braces are in pairs, before a semicolon after all of them, fails among
its own tokens, at a place that does not depend on what follows the semicolon
(`result_of_malformed`). From there the parser looks for the next semicolon or closing brace
without counting braces, and the program goes on behind that token (`program_of_malformed`). The
whole statement is left out when it fails behind its last brace. Otherwise a tail of it can be read
as statements of its own (`malformed_tail_kept`).
-/

set_option autoImplicit false

namespace MonkeyLang

variable {tokens : List Token} {semicolon : Token}

/-! ## The place of the failure -/

/-- A malformed statement stops among its tokens or on the semicolon, a sentence that succeeds among
its tokens. -/
theorem stop_of_sentence (nested : nestedAt 0 tokens = true)
    (closes : semicolon.kind = .semicolon) (after : List Token) :
    ∃ left, (sentence (tokens ++ semicolon :: after)).stop = left ++ semicolon :: after ∧
      ∀ value, (sentence (tokens ++ semicolon :: after)).result = .ok value → left ≠ [] := by
  have here : Cursor.AtLevel (tokens ++ semicolon :: after) (semicolon :: after) 0 :=
    ⟨closes, tokens, 0, rfl, Nat.le_refl 0, nested⟩
  obtain ⟨⟨-, left, -, stops, -, -⟩, further⟩ := keeps_sentence here
  refine ⟨left, stops, fun value came none => ?_⟩
  -- After a success the semicolon is still to come, so it is not passed.
  obtain ⟨used, -, next, -, -⟩ := (further value came).nested
  rw [stops, none] at next
  have length := congrArg List.length next
  simp only [Cursor.next, List.nil_append, List.tail_cons, List.length_append, List.length_cons]
    at length
  omega

/-- What a sentence makes of tokens before a semicolon does not depend on what follows, as long as
the semicolon is only looked at. -/
theorem parts_sentence_of_stop {left after : List Token} (some_left : left ≠ [])
    (stops : (sentence (tokens ++ semicolon :: after)).stop = left ++ semicolon :: after)
    (after' : List Token) :
    (sentence (tokens ++ semicolon :: after')).parts =
      ((sentence (tokens ++ semicolon :: after)).result,
        (sentence (tokens ++ semicolon :: after)).recorded, left ++ semicolon :: after') := by
  obtain ⟨used, whole⟩ := (sentence (tokens ++ semicolon :: after)).forward
  have agrees : Cursor.Agrees (left ++ semicolon :: after) (left ++ semicolon :: after') :=
    ⟨Cursor.current_append left rfl, Cursor.peek_append some_left rfl⟩
  have split : tokens = used ++ left := by
    rw [stops, ← List.append_assoc] at whole
    exact (List.append_cancel_right whole).symm
  have local_here := localAt_sentence (tokens ++ semicolon :: after) used
    (left ++ semicolon :: after') whole.symm (.of_agrees (stops ▸ agrees))
  rwa [← List.append_assoc, ← split] at local_here

/-- Two places where a sentence stops before the same semicolon are one. -/
theorem stop_unique {left left' after after' : List Token}
    (stops : (sentence (tokens ++ semicolon :: after)).stop = left ++ semicolon :: after)
    (stops' : (sentence (tokens ++ semicolon :: after')).stop = left' ++ semicolon :: after') :
    left = left' := by
  by_cases some_left : left = []
  · by_cases some_left' : left' = []
    · rw [some_left, some_left']
    · have parts := parts_sentence_of_stop some_left' stops' after
      simp only [Reply.parts, Prod.mk.injEq] at parts
      exact List.append_cancel_right (stops.symm.trans parts.2.2)
  · have parts := parts_sentence_of_stop some_left stops after'
    simp only [Reply.parts, Prod.mk.injEq] at parts
    exact List.append_cancel_right (parts.2.2.symm.trans stops')

/-- **A malformed statement fails at the same place whatever follows its semicolon.** -/
theorem result_of_malformed (nested : nestedAt 0 tokens = true)
    (closes : semicolon.kind = .semicolon)
    (malformed : ∀ first, (sentence (tokens ++ [semicolon])).result ≠ .ok first) :
    ∃ left, left <:+ tokens ∧ ∀ after : List Token,
      (∃ cause, (sentence (tokens ++ semicolon :: after)).result = .error cause) ∧
        (sentence (tokens ++ semicolon :: after)).stop = left ++ semicolon :: after := by
  obtain ⟨left, stops, -⟩ := stop_of_sentence nested closes []
  have suffix : left <:+ tokens := by
    obtain ⟨used, whole⟩ := (sentence (tokens ++ [semicolon])).forward
    rw [stops, ← List.append_assoc] at whole
    exact ⟨used, List.append_cancel_right whole⟩
  refine ⟨left, suffix, fun after => ?_⟩
  obtain ⟨left', stops', some_left'⟩ := stop_of_sentence nested closes after
  refine ⟨?_, stop_unique stops stops' ▸ stops'⟩
  cases came : (sentence (tokens ++ semicolon :: after)).result with
  | error cause => exact ⟨cause, rfl⟩
  | ok value =>
      have parts := parts_sentence_of_stop (some_left' value came) stops' []
      simp only [Reply.parts, Prod.mk.injEq] at parts
      exact absurd (parts.1.trans came) (malformed value)

/-! ## Going on after it -/

/-- What stands after the first semicolon or closing brace. -/
def Cursor.pastBoundary : Cursor → Cursor
  | [] => []
  | token :: rest =>
    if token.kind = .semicolon ∨ token.kind = .rightBrace then rest else pastBoundary rest

/-- Nothing begins with a boundary. -/
theorem parts_statement_of_boundary {cursor : Cursor} (ends : cursor.kind ∈ TokenKind.boundaries) :
    (statement cursor).parts = (.error (.noOperand cursor.kind), [], cursor) := by
  have others : cursor.kind ≠ .letWord ∧ cursor.kind ≠ .returnWord := by
    revert ends
    cases cursor.kind <;> decide
  have parts := parts_operand_of_boundary ends
  simp only [Reply.parts, Prod.mk.injEq] at parts
  rw [statement_eq, sentence_of_other others.1 others.2, expression]
  simp only [Reply.parts, Reply.andThen, Reply.map, parts, Except.map]

/-- A closing brace where a statement should begin is left out alone. -/
theorem program_of_rightBrace {brace : Token} (kind : brace.kind = .rightBrace)
    (rest : List Token) : (parse (brace :: rest)).program = (parse rest).program := by
  have here : Cursor.kind (brace :: rest) = .rightBrace := kind
  have ends : Cursor.kind (brace :: rest) ∈ TokenKind.boundaries := by
    rw [here]
    decide
  have parts := parts_statement_of_boundary ends
  simp only [Reply.parts, Prod.mk.injEq] at parts
  have recovered : Cursor.recover (brace :: rest) = brace :: rest :=
    Cursor.recover_of_atBoundary (by simp [Cursor.atBoundary, here])
  rw [parse, dif_neg (by rw [here]; decide)]
  simp only [parts.1, Parsed.skip]
  rw [parts.2.2, recovered]
  rfl

/-- The parser recovers behind the first semicolon or closing brace, or before the brace, which is
then left out as well. -/
theorem program_recover {left : List Token} (endFree : EndFree left)
    (closes : semicolon.kind = .semicolon) (after : List Token) :
    (parse (Cursor.next (Cursor.recover (left ++ semicolon :: after)))).program =
      (parse (Cursor.pastBoundary (left ++ semicolon :: after))).program := by
  induction left with
  | nil =>
      have here : Cursor.kind (semicolon :: after) = .semicolon := closes
      rw [List.nil_append, Cursor.recover_of_atBoundary (by simp [Cursor.atBoundary, here]),
        Cursor.pastBoundary, if_pos (.inl closes)]
      rfl
  | cons token more ih =>
      have inner : EndFree more := endFree.of_suffix (List.suffix_cons token more)
      have here : Cursor.kind (token :: (more ++ semicolon :: after)) = token.kind := rfl
      rw [List.cons_append, Cursor.pastBoundary]
      split
      · next boundary =>
        have stays : Cursor.atBoundary (token :: (more ++ semicolon :: after)) = true := by
          rcases boundary with kind | kind <;> simp [Cursor.atBoundary, here, kind]
        rw [Cursor.recover_of_atBoundary stays]
        rfl
      · next inside =>
        by_cases brace : Cursor.kind (more ++ semicolon :: after) = .rightBrace
        · obtain ⟨second, others, whole⟩ : ∃ second others,
              more ++ semicolon :: after = second :: others :=
            List.exists_cons_of_ne_nil (by simp)
          rw [whole] at brace ⊢
          have stays : Cursor.atBoundary (token :: second :: others) = true := by
            simp [Cursor.atBoundary, Cursor.peek, Cursor.next, brace]
          rw [Cursor.recover_of_atBoundary stays, Cursor.pastBoundary, if_pos (.inr brace)]
          exact program_of_rightBrace brace others
        · have goesOn : Cursor.kind (more ++ semicolon :: after) ≠ .endOfInput := by
            cases more with
            | nil => exact fun ended => by cases closes.symm.trans ended
            | cons second others => exact inner second List.mem_cons_self
          rw [not_or] at inside
          have apart : token.kind ∉ TokenKind.boundaries := by
            simp [TokenKind.boundaries, inside, endFree token List.mem_cons_self]
          rw [Cursor.recover, if_neg (not_atBoundary apart ⟨brace, goesOn⟩)]
          exact ih inner

theorem pastBoundary_of_plain {left : List Token}
    (plain : ∀ token ∈ left, token.kind ≠ .semicolon ∧ token.kind ≠ .rightBrace)
    (closes : semicolon.kind = .semicolon) (after : List Token) :
    Cursor.pastBoundary (left ++ semicolon :: after) = after := by
  induction left with
  | nil => exact if_pos (.inl closes)
  | cons token more ih =>
      obtain ⟨inside, others⟩ := List.forall_mem_cons.mp plain
      exact (if_neg (not_or.mpr inside)).trans (ih others)

/-! ## Malformed statements -/

theorem endFree_of_nestedAt {depth : Nat} (nested : nestedAt depth tokens = true) :
    EndFree tokens := by
  induction tokens generalizing depth with
  | nil => exact List.forall_mem_nil _
  | cons token rest ih =>
      refine List.forall_mem_cons.mpr ⟨fun ended => ?_, ?_⟩
      · simp [nestedAt, ended] at nested
      · rw [nestedAt] at nested
        split at nested
        · exact ih nested
        · exact ih (Bool.and_eq_true_iff.mp nested).2
        · exact ih (Bool.and_eq_true_iff.mp nested).2
        · cases nested
        · exact ih nested

/-- A statement fails where the sentence in it does. -/
theorem statement_of_sentence_error {cursor : Cursor} {cause : Diagnostic}
    (came : (sentence cursor).result = .error cause) :
    (statement cursor).result = .error cause ∧
      (statement cursor).stop = (sentence cursor).stop := by
  rw [statement_eq]
  simp only [Reply.andThen, came, and_self]

theorem sentence_ne_of_statement_ne {cursor : Cursor}
    (malformed : ∀ first, (statement cursor).result ≠ .ok first) (first : Statement) :
    (sentence cursor).result ≠ .ok first := by
  intro came
  refine malformed first ?_
  rw [statement_eq]
  simp only [Reply.andThen, came]
  exact congrArg Prod.fst (reads_closeStatement _ first)

/-- **A malformed statement is left out up to the first semicolon or closing brace.** Let its braces
be in pairs and all its semicolons between them. Then it fails among its own tokens, at a place that
is the same whatever follows the semicolon after it. The program goes on behind the first semicolon
or closing brace from there on, also when this token belongs to the malformed statement; and if none
does, the whole statement is left out. -/
theorem program_of_malformed (nested : nestedAt 0 tokens = true)
    (closes : semicolon.kind = .semicolon)
    (malformed : ∀ first, (statement (tokens ++ [semicolon])).result ≠ .ok first) :
    ∃ left, left <:+ tokens ∧ (statement (tokens ++ [semicolon])).stop = left ++ [semicolon] ∧
      (∀ after, (parse (tokens ++ semicolon :: after)).program =
        (parse (Cursor.pastBoundary (left ++ semicolon :: after))).program) ∧
      ((∀ token ∈ left, token.kind ≠ .semicolon ∧ token.kind ≠ .rightBrace) →
        ∀ after, (parse (tokens ++ semicolon :: after)).program = (parse after).program) := by
  obtain ⟨left, suffix, fails⟩ :=
    result_of_malformed nested closes (sentence_ne_of_statement_ne malformed)
  have endFree : EndFree left := (endFree_of_nestedAt nested).of_suffix suffix
  have goesOn : ∀ after, (parse (tokens ++ semicolon :: after)).program =
      (parse (Cursor.pastBoundary (left ++ semicolon :: after))).program := by
    intro after
    obtain ⟨⟨cause, came⟩, stops⟩ := fails after
    have here : Cursor.AtLevel (tokens ++ semicolon :: after) (semicolon :: after) 0 :=
      ⟨closes, tokens, 0, rfl, Nat.le_refl 0, nested⟩
    obtain ⟨result, stop⟩ := statement_of_sentence_error came
    rw [parse, dif_neg here.kind_ne_endOfInput]
    simp only [result, Parsed.skip]
    rw [stop, stops, program_recover endFree closes]
  refine ⟨left, suffix, ?_, goesOn, fun plain after => ?_⟩
  · obtain ⟨⟨cause, came⟩, stops⟩ := fails []
    exact (statement_of_sentence_error came).2.trans stops
  · rw [goesOn, pastBoundary_of_plain plain closes]

/-- A function with a body of two statements is called without a closing parenthesis: the failure is
behind the body, and nothing of the call is kept. -/
theorem program_of_malformed_call :
    let tokens : List Token := [⟨.functionWord, "fn"⟩, ⟨.leftParen, "("⟩, ⟨.rightParen, ")"⟩,
      ⟨.leftBrace, "\x7b"⟩, ⟨.identifier, "a"⟩, ⟨.semicolon, ";"⟩, ⟨.identifier, "b"⟩,
      ⟨.rightBrace, "\x7d"⟩, ⟨.leftParen, "("⟩, ⟨.integer, "1"⟩]
    nestedAt 0 tokens = true ∧
      (∀ first, (statement (tokens ++ [⟨.semicolon, ";"⟩])).result ≠ .ok first) ∧
      ∀ after, (parse (tokens ++ ⟨.semicolon, ";"⟩ :: after)).program = (parse after).program := by
  intro tokens
  have nested : nestedAt 0 tokens = true := by decide
  have result : (statement (tokens ++ [⟨.semicolon, ";"⟩])).result =
      .error (.unexpected .rightParen .semicolon) := by decide +kernel
  have malformed : ∀ first, (statement (tokens ++ [⟨.semicolon, ";"⟩])).result ≠ .ok first := by
    intro first came
    rw [result] at came
    cases came
  have closes : Token.kind ⟨.semicolon, ";"⟩ = .semicolon := rfl
  obtain ⟨left, -, stops, -, whole⟩ := program_of_malformed nested closes malformed
  have stop : (statement (tokens ++ [⟨.semicolon, ";"⟩])).stop =
      [⟨.integer, "1"⟩, ⟨.semicolon, ";"⟩] := by decide +kernel
  have same : left = [⟨.integer, "1"⟩] :=
    List.append_cancel_right (stops.symm.trans stop)
  exact ⟨nested, malformed, whole (same ▸ by decide)⟩

/-- A hash stands before the place of the failure, and its closing brace is taken for the end of the
statement: the number behind it is read as a statement of its own. -/
theorem malformed_tail_kept :
    let tokens : List Token := [⟨.leftParen, "("⟩, ⟨.leftBrace, "\x7b"⟩, ⟨.integer, "1"⟩,
      ⟨.colon, ":"⟩, ⟨.integer, "2"⟩, ⟨.rightBrace, "\x7d"⟩, ⟨.integer, "5"⟩]
    nestedAt 0 tokens = true ∧
      (statement (tokens ++ [⟨.semicolon, ";"⟩])).result =
        .error (.unexpected .rightParen .integer) ∧
      (parse (tokens ++ [⟨.semicolon, ";"⟩, ⟨.identifier, "x"⟩])).program =
        [.evaluate (.integer 5), .evaluate (.identifier "x")] ∧
      (parse [⟨.identifier, "x"⟩]).program = [.evaluate (.identifier "x")] := by
  refine ⟨by decide, ?_, ?_, ?_⟩ <;> decide +kernel

end MonkeyLang
