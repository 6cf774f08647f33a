import Mathlib.Logic.Function.Iterate
import MonkeyLang.Proofs.Parsing.Causes
import MonkeyLang.Proofs.Parsing.Isolation

/-!
# The token discipline

The parser holds two tokens, the current one and the one ahead, and draws the tokens after them from
the scanner when it needs them (`Window`). A cursor stands for the window on the tokens from the
current one on, and the next cursor for the window one token further on.

Every production keeps to one discipline (`DisciplinedAt`). A success stops on the last token that
belongs to it, with one token drawn beyond that one; and of all the tokens after the last one, it
depends on the kind of the first alone. What the last token can be is told by the production: a
block ends on its closing brace, a list on its closing token, and nothing ends at the end of the
input. A failure stops where its cause arises: on the offending token, or before the token that
stands in place of the one that was asked for.

The parts are put together here (`disciplinedAt_of_localAt`). That a production looks at nothing
further is its locality (`LocalAt`), that it stops where its cause arises is its trace
(`Reply.Traced`), and where its successes stop is what it ensures (`Reply.Ensures`).
-/

set_option autoImplicit false

namespace MonkeyLang

/-! ## Windows -/

/-- The two tokens that the parser holds, and those that it has not drawn yet. -/
structure Window where
  current : Token
  ahead : Token
  undrawn : List Token

namespace Window

/-- The window on the first two of the tokens. Past the last one, the end of the input is drawn. -/
def ofTokens (tokens : List Token) : Window :=
  ⟨tokens.headD .endOfInput, tokens.tail.headD .endOfInput, tokens.tail.tail⟩

/-- One token further on: the one ahead becomes the current one, and one more is drawn. -/
def advance (window : Window) : Window :=
  ⟨window.ahead, window.undrawn.headD .endOfInput, window.undrawn.tail⟩

theorem ofTokens_next (cursor : Cursor) : ofTokens cursor.next = (ofTokens cursor).advance := rfl

/-- After as many steps as there are tokens in front, the window is on the tokens after them. -/
theorem advance_iterate (segment rest : List Token) :
    advance^[segment.length] (ofTokens (segment ++ rest)) = ofTokens rest := by
  induction segment with
  | nil => rfl
  | cons token segment ih =>
      rw [List.length_cons, Function.iterate_succ_apply, ← ofTokens_next]
      exact ih

end Window

/-! ## Productions and their delimiters -/

/-- A block, entered on its opening brace. -/
def bracedBlock : Production Block := fun cursor =>
  (block cursor.next).since cursor.next_suffix

/-- Expressions separated by commas up to a closing token, entered on the opening one. -/
def delimitedList (close : TokenKind) : Production (List Expression) := fun cursor =>
  (expressionList close cursor.next).since cursor.next_suffix

/-! ## Discipline -/

/-- The production keeps to the discipline where it is entered, and ends on a token of one of these
kinds. -/
structure DisciplinedAt {α : Type} (production : Production α) (ends : TokenKind → Prop)
    (cursor : Cursor) : Prop where
  /-- A success has consumed a segment up to its last token and leaves the window on that one, with
  one token drawn beyond it. Any tokens that the input goes on with instead, if only the first is
  of the same kind, lead to the same outcome. -/
  success : ∀ value, (production cursor).result = .ok value →
    ∃ segment last after, cursor = segment ++ last :: after ∧
      (production cursor).stop = last :: after ∧ ends last.kind ∧
      Window.advance^[segment.length] (.ofTokens cursor) = .ofTokens (production cursor).stop ∧
      Window.ofTokens (production cursor).stop = ⟨last, after.headD .endOfInput, after.tail⟩ ∧
      ∀ other : Cursor, other.kind = Cursor.kind after →
        (production (segment ++ last :: other)).parts =
          (.ok value, (production cursor).recorded, last :: other)
  /-- A failure has stopped where its cause arises. -/
  failure : ∀ cause, (production cursor).result = .error cause →
    cause.ArisesAt (production cursor).stop

/-- A local production keeps to the discipline if no success ends at the end of the input. -/
theorem disciplinedAt_of_localAt {α : Type} {production : Production α} {ends : TokenKind → Prop}
    {cursor : Cursor} (here : LocalAt production cursor) (traced : (production cursor).Traced)
    (more : ¬ ends .endOfInput)
    (closes : (production cursor).Ensures fun _ stop => ends stop.kind) :
    DisciplinedAt production ends cursor where
  success value succeeds := by
    obtain ⟨segment, split⟩ := (production cursor).forward
    have closed := closes value succeeds
    cases stop : (production cursor).stop with
    | nil =>
        rw [stop] at closed
        exact absurd closed more
    | cons last after =>
        rw [stop] at split closed
        refine ⟨segment, last, after, split.symm, rfl, closed, ?_, rfl, fun other sameKind => ?_⟩
        · rw [← split]
          exact Window.advance_iterate segment (last :: after)
        · have agrees : (production cursor).stop.Agrees (last :: other) := by
            rw [stop]
            exact ⟨rfl, sameKind.symm⟩
          rw [here segment (last :: other) (stop ▸ split.symm) (.of_agrees agrees), succeeds]
  failure := traced.cause

/-! ## Every production keeps to the discipline -/

theorem ensures_statement_inside (cursor : Cursor) :
    (statement cursor).Ensures fun _ stop => stop.kind ≠ .endOfInput := by
  rw [statement_eq]
  refine (ensures_sentence_inside cursor).andThen fun stop ahead value inside => ?_
  rw [closeStatement]
  split
  · next semicolon =>
    refine (Reply.ensures_succeed ?_).since _
    rw [show stop.next.kind = .semicolon from semicolon]
    decide
  · exact Reply.ensures_succeed inside.2

theorem disciplinedAt_statement (cursor : Cursor) :
    DisciplinedAt statement (· ≠ .endOfInput) cursor :=
  disciplinedAt_of_localAt (localAt_sentence cursor).statement (traced_statement cursor)
    (fun more => more rfl) (ensures_statement_inside cursor)

theorem disciplinedAt_expression (weaker : Strength) (cursor : Cursor) :
    DisciplinedAt (expression weaker) (fun kind => kind ≠ .semicolon ∧ kind ≠ .endOfInput) cursor :=
  disciplinedAt_of_localAt (localAt_expression weaker cursor) (traced_expression weaker cursor)
    (fun inside => inside.2 rfl) (ensures_expression_inside weaker cursor)

theorem disciplinedAt_bracedBlock (cursor : Cursor) :
    DisciplinedAt bracedBlock (· = .rightBrace) cursor :=
  disciplinedAt_of_localAt (localAt_block cursor.next).advance
    ((traced_block cursor.next).since _) (by decide) ((ensures_block_stop cursor.next).since _)

theorem disciplinedAt_delimitedList {close : TokenKind} (asked : close ∉ TokenKind.lastEnds)
    (cursor : Cursor) : DisciplinedAt (delimitedList close) (· = close) cursor := by
  have notBrace : close ≠ .rightBrace := fun brace => asked (brace ▸ by decide)
  have more : .endOfInput ≠ close := fun ended => asked (ended ▸ by decide)
  exact disciplinedAt_of_localAt (localAt_expressionList asked cursor.next).advance
    ((traced_expressionList notBrace cursor.next).since _) more
    ((ensures_expressionList_stop close cursor.next).since _)

/-- **Statements, expressions of any strength, blocks and lists of expressions keep to the token
discipline wherever they are entered.** -/
theorem token_discipline (cursor : Cursor) :
    DisciplinedAt statement (· ≠ .endOfInput) cursor ∧
      (∀ weaker, DisciplinedAt (expression weaker)
        (fun kind => kind ≠ .semicolon ∧ kind ≠ .endOfInput) cursor) ∧
      DisciplinedAt bracedBlock (· = .rightBrace) cursor ∧
      DisciplinedAt (delimitedList .rightParen) (· = .rightParen) cursor ∧
      DisciplinedAt (delimitedList .rightBracket) (· = .rightBracket) cursor :=
  ⟨disciplinedAt_statement cursor, fun weaker => disciplinedAt_expression weaker cursor,
    disciplinedAt_bracedBlock cursor, disciplinedAt_delimitedList (by decide) cursor,
    disciplinedAt_delimitedList (by decide) cursor⟩

/-- A sum before a closing parenthesis is read alike whatever stands after that one, and a binding
with a number in place of its name stops before the number. -/
theorem token_discipline_sum :
    (∀ other : Cursor, other.kind = .rightParen →
      (expression .lowest (⟨.integer, "1"⟩ :: ⟨.plus, "+"⟩ :: ⟨.integer, "2"⟩ :: other)).parts =
        (.ok (.binary .add (.integer 1) (.integer 2)), [], ⟨.integer, "2"⟩ :: other)) ∧
      (Diagnostic.unexpected .identifier .integer).ArisesAt
        [⟨.letWord, "let"⟩, ⟨.integer, "5"⟩] := by
  let sum : Cursor := [⟨.integer, "1"⟩, ⟨.plus, "+"⟩, ⟨.integer, "2"⟩, ⟨.rightParen, ")"⟩]
  have read : (expression .lowest sum).parts = (.ok (.binary .add (.integer 1) (.integer 2)), [],
      [⟨.integer, "2"⟩, ⟨.rightParen, ")"⟩]) := by
    with_unfolding_all rfl
  have unread : (statement [⟨.letWord, "let"⟩, ⟨.integer, "5"⟩]).parts =
      (.error (.unexpected .identifier .integer), [], [⟨.letWord, "let"⟩, ⟨.integer, "5"⟩]) := by
    with_unfolding_all rfl
  simp only [Reply.parts, Prod.mk.injEq] at read unread
  obtain ⟨succeeds, nothing, stops⟩ := read
  obtain ⟨fails, -, stays⟩ := unread
  constructor
  · obtain ⟨segment, last, after, split, stop, -, -, -, same⟩ :=
      ((token_discipline sum).2.1 .lowest).success _ succeeds
    obtain ⟨rfl, rfl⟩ := List.cons.inj (stop.symm.trans stops)
    obtain rfl : segment = [⟨.integer, "1"⟩, ⟨.plus, "+"⟩] := List.append_cancel_right split.symm
    rw [nothing] at same
    exact same
  · have arises := (token_discipline [⟨.letWord, "let"⟩, ⟨.integer, "5"⟩]).1.failure _ fails
    rwa [stays] at arises

end MonkeyLang
