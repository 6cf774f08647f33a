import MonkeyLang.Proofs.Parsing.Guarantee
import MonkeyLang.Proofs.Parsing.Locality

/-!
# Tokens with their braces in pairs

The depth of a place is the number of braces that are closed after it and were opened before it
(`nestedAt`). No production ends less deep than it began (`Reply.Keeps`). What it opens it closes,
and where it gives up a hash or leaves out the rest of a malformed statement, it closes fewer braces
than it has seen opened. So a block ends among tokens in which its braces have their partners,
whatever is malformed in it, and a sentence ends, well or not, before the semicolon that stands
after all its braces (`keeps_sentence`).
-/

set_option autoImplicit false

namespace MonkeyLang

/-! ## Depth -/

/-- Whether so many braces are closed among these tokens that are not opened among them, while all
others are in pairs, semicolons stand between braces only, and no token stands for the end of the
input. -/
def nestedAt : Nat → List Token → Bool
  | depth, [] => depth == 0
  | depth, token :: rest =>
    match token.kind with
    | .leftBrace => nestedAt (depth + 1) rest
    | .rightBrace => depth != 0 && nestedAt (depth - 1) rest
    | .semicolon => depth != 0 && nestedAt depth rest
    | .endOfInput => false
    | _ => nestedAt depth rest

/-- The kinds of tokens that count for the depth, or that end a statement. -/
def TokenKind.marks : List TokenKind :=
  [.leftBrace, .rightBrace, .semicolon, .endOfInput]

/-- Before what begins with this semicolon, the place has at least this depth. -/
structure Cursor.AtLevel (cursor rest : Cursor) (level : Nat) : Prop where
  semicolon : rest.kind = .semicolon
  nested : ∃ used depth, cursor = used ++ rest ∧ level ≤ depth ∧ nestedAt depth used = true

namespace Cursor.AtLevel

variable {rest cursor : Cursor} {level level' : Nat}

theorem mono (here : cursor.AtLevel rest level') (le : level ≤ level') :
    cursor.AtLevel rest level := by
  obtain ⟨used, depth, whole, le', nested⟩ := here.nested
  exact ⟨here.semicolon, used, depth, whole, Nat.le_trans le le', nested⟩

/-- Either nothing stands before the rest, or the current token does. -/
theorem cases_used (here : cursor.AtLevel rest level) :
    level = 0 ∧ cursor = rest ∨
      ∃ token used depth, cursor = token :: used ++ rest ∧ level ≤ depth ∧
        nestedAt depth (token :: used) = true := by
  obtain ⟨used, depth, whole, le, nested⟩ := here.nested
  cases used with
  | nil => exact .inl ⟨Nat.le_zero.mp (beq_iff_eq.mp nested ▸ le), whole⟩
  | cons token used => exact .inr ⟨token, used, depth, whole, le, nested⟩

theorem kind_ne_endOfInput (here : cursor.AtLevel rest level) : cursor.kind ≠ .endOfInput := by
  intro ended
  rcases here.cases_used with ⟨-, rfl⟩ | ⟨token, used, depth, rfl, -, nested⟩
  · rw [here.semicolon] at ended
    cases ended
  · have kind : token.kind = .endOfInput := ended
    simp [nestedAt, kind] at nested

/-- Past an opening brace it is deeper. -/
theorem next_of_leftBrace (here : cursor.AtLevel rest level) (brace : cursor.kind = .leftBrace) :
    cursor.next.AtLevel rest (level + 1) := by
  rcases here.cases_used with ⟨-, rfl⟩ | ⟨token, used, depth, rfl, le, nested⟩
  · rw [here.semicolon] at brace
    cases brace
  · have kind : token.kind = .leftBrace := brace
    rw [nestedAt, kind] at nested
    exact ⟨here.semicolon, used, depth + 1, rfl, Nat.succ_le_succ le, nested⟩

/-- Past a closing brace it is less deep. -/
theorem next_of_rightBrace (here : cursor.AtLevel rest (level + 1))
    (brace : cursor.kind = .rightBrace) : cursor.next.AtLevel rest level := by
  rcases here.cases_used with ⟨none, -⟩ | ⟨token, used, depth, rfl, le, nested⟩
  · cases none
  · have kind : token.kind = .rightBrace := brace
    simp only [nestedAt, kind, Bool.and_eq_true] at nested
    exact ⟨here.semicolon, used, depth - 1, rfl, Nat.le_sub_one_of_lt le, nested.2⟩

/-- Between braces, a semicolon is passed. -/
theorem next_of_semicolon (here : cursor.AtLevel rest (level + 1))
    (semicolon : cursor.kind = .semicolon) : cursor.next.AtLevel rest (level + 1) := by
  rcases here.cases_used with ⟨none, -⟩ | ⟨token, used, depth, rfl, le, nested⟩
  · cases none
  · have kind : token.kind = .semicolon := semicolon
    simp only [nestedAt, kind, Bool.and_eq_true] at nested
    exact ⟨here.semicolon, used, depth, rfl, le, nested.2⟩

theorem next_of_plain (here : cursor.AtLevel rest level) (plain : cursor.kind ∉ TokenKind.marks) :
    cursor.next.AtLevel rest level := by
  rcases here.cases_used with ⟨-, rfl⟩ | ⟨token, used, depth, rfl, le, nested⟩
  · rw [here.semicolon] at plain
    exact absurd (by decide) plain
  · have kind : token.kind ∉ TokenKind.marks := plain
    refine ⟨here.semicolon, used, depth, rfl, le, ?_⟩
    rw [nestedAt] at nested
    split at nested <;> first | exact nested | exact absurd (by simp [*, TokenKind.marks]) kind

theorem next_of_kind {kind : TokenKind} (here : cursor.AtLevel rest level)
    (known : cursor.kind = kind) (plain : kind ∉ TokenKind.marks) :
    cursor.next.AtLevel rest level :=
  here.next_of_plain (known ▸ plain)

/-- Between braces, every token but a closing brace leads no less deep. -/
theorem next_of_ne (here : cursor.AtLevel rest (level + 1)) (other : cursor.kind ≠ .rightBrace) :
    cursor.next.AtLevel rest (level + 1) := by
  by_cases brace : cursor.kind = .leftBrace
  · exact (here.next_of_leftBrace brace).mono (Nat.le_succ _)
  by_cases semicolon : cursor.kind = .semicolon
  · exact here.next_of_semicolon semicolon
  · refine here.next_of_plain ?_
    simp [TokenKind.marks, brace, other, semicolon, here.kind_ne_endOfInput]

/-- Between braces, the parser recovers between the same braces. -/
theorem recover (here : cursor.AtLevel rest (level + 1)) :
    cursor.recover.AtLevel rest (level + 1) := by
  induction cursor with
  | nil => exact here
  | cons token others ih =>
      rw [Cursor.recover]
      split
      · exact here
      · next inside =>
        refine ih (here.next_of_ne fun brace => inside ?_)
        simp [Cursor.atBoundary, brace]

end Cursor.AtLevel

/-! ## Productions that keep the depth -/

/-- The place of the stop is as deep as this, and so is the place after it if the reply is a
success. -/
def Reply.Keeps {α : Type} {cursor : Cursor} (rest : Cursor) (level : Nat)
    (reply : Reply cursor α) : Prop :=
  reply.stop.AtLevel rest level ∧
    ∀ value, reply.result = .ok value → reply.stop.next.AtLevel rest level

namespace Reply

variable {α β : Type} {rest cursor : Cursor} {level level' : Nat}

theorem keeps_succeed {value : α} (here : cursor.AtLevel rest level)
    (further : cursor.next.AtLevel rest level) : (succeed cursor value).Keeps rest level :=
  ⟨here, fun _ _ => further⟩

theorem keeps_fail {cause : Diagnostic} (here : cursor.AtLevel rest level) :
    (fail cursor cause : Reply cursor α).Keeps rest level :=
  ⟨here, fun _ came => by cases came⟩

theorem Keeps.since {start : Cursor} {reply : Reply start α} (keeps : reply.Keeps rest level)
    (ahead : start <:+ cursor) : (reply.since ahead).Keeps rest level :=
  keeps

theorem Keeps.map {reply : Reply cursor α} (keeps : reply.Keeps rest level) (f : α → β) :
    (reply.map f).Keeps rest level := by
  refine ⟨keeps.1, fun result came => ?_⟩
  obtain ⟨first, recorded, stop, forward⟩ := reply
  cases first with
  | error cause => cases came
  | ok value => exact keeps.2 value rfl

/-- What a production keeps is kept by going on from where it stopped. -/
theorem Keeps.andThen {reply : Reply cursor α}
    {following : (stop : Cursor) → stop <:+ cursor → α → Reply stop β}
    (keeps : reply.Keeps rest level') (le : level ≤ level')
    (further : ∀ stop ahead value, stop.AtLevel rest level' → stop.next.AtLevel rest level' →
      (following stop ahead value).Keeps rest level) :
    (reply.andThen following).Keeps rest level := by
  obtain ⟨first, recorded, stop, forward⟩ := reply
  cases first with
  | error cause => exact keeps_fail (keeps.1.mono le)
  | ok value => exact further stop forward value keeps.1 (keeps.2 value rfl)

theorem Keeps.orSkip {reply : Reply cursor α}
    {following : (stop : Cursor) → stop <:+ cursor → Option α → Reply stop β}
    (keeps : reply.Keeps rest (level' + 1))
    (kept : ∀ stop ahead value, stop.next.AtLevel rest (level' + 1) →
      (following stop ahead (some value)).Keeps rest level)
    (skipped : ∀ stop ahead, stop.AtLevel rest (level' + 1) →
      (following stop ahead none).Keeps rest level) :
    (reply.orSkip following).Keeps rest level := by
  obtain ⟨first, recorded, stop, forward⟩ := reply
  cases first with
  | error cause => exact skipped stop.recover (stop.recover_suffix.trans forward) keeps.1.recover
  | ok value => exact kept stop forward value (keeps.2 value rfl)

end Reply

open Reply

variable {α β : Type} {rest cursor : Cursor} {level level' : Nat}

/-- Goes on from a token that was asked for. -/
theorem keeps_expect_andThen {kind : TokenKind}
    {following : (stop : Cursor) → stop <:+ cursor → Unit → Reply stop β}
    (here : cursor.AtLevel rest level') (next : cursor.next.AtLevel rest level')
    (le : level ≤ level')
    (further : ∀ stop ahead, stop.kind = kind → stop.AtLevel rest level' →
      (following stop ahead ()).Keeps rest level) :
    ((expect kind cursor).andThen following).Keeps rest level := by
  rw [expect]
  split
  · next found => exact further cursor.next cursor.next_suffix found next
  · exact keeps_fail (here.mono le)

theorem keeps_expect {kind : TokenKind} (plain : kind ∉ TokenKind.marks)
    (here : cursor.AtLevel rest level) (next : cursor.next.AtLevel rest level) :
    (expect kind cursor).Keeps rest level := by
  rw [expect]
  split
  · next found => exact (keeps_succeed next (next.next_of_kind found plain)).since _
  · exact keeps_fail here

theorem keeps_parameterNames {cursor : Cursor} (here : cursor.AtLevel rest level)
    (next : cursor.next.AtLevel rest level) : (parameterNames cursor).Keeps rest level := by
  rw [parameterNames]
  refine keeps_expect_andThen here next (Nat.le_refl _) fun stop ahead isName here' => ?_
  have further := here'.next_of_kind isName (by decide)
  split
  · next more =>
    have shorter := @Cursor.length_next_lt_of_peek stop (by rw [more]; decide)
    have := ahead.length_le
    exact ((keeps_parameterNames further (further.next_of_kind more (by decide))).since _).map _
  · exact (keeps_expect (by decide) here' further).map _
termination_by cursor.length
decreasing_by omega

theorem keeps_parameterList (here : cursor.AtLevel rest level)
    (next : cursor.next.AtLevel rest level) : (parameterList cursor).Keeps rest level := by
  rw [parameterList]
  split
  · next closed => exact (keeps_succeed next (next.next_of_kind closed (by decide))).since _
  · exact keeps_parameterNames here next

/-! ## Expressions and blocks -/

mutual
/-- **A sentence ends, well or not, no less deep than it began.** -/
theorem keeps_sentence {level : Nat} {cursor : Cursor} (here : cursor.AtLevel rest level) :
    (sentence cursor).Keeps rest level := by
  by_cases isLet : cursor.kind = .letWord
  · rw [sentence_of_let isLet]
    refine keeps_expect_andThen here (here.next_of_kind isLet (by decide)) (Nat.le_refl _)
      fun named ahead isName named_at => ?_
    refine keeps_expect_andThen named_at (named_at.next_of_kind isName (by decide)) (Nat.le_refl _)
      fun assigned ahead' isAssign assigned_at => ?_
    have := ((assigned.next_suffix.trans ahead').trans ahead).length_le
    exact ((keeps_expression .lowest (assigned_at.next_of_kind isAssign (by decide))).map _).since _
  · by_cases isReturn : cursor.kind = .returnWord
    · rw [sentence_of_return isReturn]
      have := cursor.next_suffix.length_le
      exact ((keeps_expression .lowest (here.next_of_kind isReturn (by decide))).map _).since _
    · rw [sentence_of_other isLet isReturn]
      exact (keeps_expression .lowest here).map _
termination_by 8 * cursor.length + 5
decreasing_by
  all_goals omega

theorem keeps_expression (weaker : Strength) {level : Nat} {cursor : Cursor}
    (here : cursor.AtLevel rest level) : (expression weaker cursor).Keeps rest level := by
  rw [expression]
  refine (keeps_operand here).andThen (Nat.le_refl _) fun stop ahead left here next => ?_
  have := ahead.length_le
  exact keeps_continuation weaker left here next
termination_by 8 * cursor.length + 4
decreasing_by
  all_goals omega

theorem keeps_operand {level : Nat} {cursor : Cursor} (here : cursor.AtLevel rest level) :
    (operand cursor).Keeps rest level := by
  cases cursor with
  | nil => exact absurd rfl here.kind_ne_endOfInput
  | cons token after =>
      obtain ⟨kind, literal⟩ := token
      have next : kind ∉ TokenKind.marks → Cursor.AtLevel after rest level := here.next_of_plain
      rw [operand]
      cases kind with
      | identifier | string | trueWord | falseWord =>
          exact keeps_succeed here (next (by decide))
      | integer =>
          dsimp only
          split
          · exact keeps_succeed here (next (by decide))
          · exact keeps_fail here
      | bang =>
          have next := next (by decide)
          exact ((keeps_expression .unary next).map _).since _
      | minus =>
          have next := next (by decide)
          dsimp only
          split
          · next value negated =>
            have integer : Cursor.kind after = .integer := by
              rw [Cursor.negated?] at negated
              split at negated
              · assumption
              · cases negated
            exact (keeps_continuation .unary (.integer value) next
              (next.next_of_kind integer (by decide))).since _
          · exact ((keeps_expression .unary next).map _).since _
      | leftParen =>
          have next := next (by decide)
          refine Keeps.since ((keeps_expression .lowest next).andThen (Nat.le_refl _)
            fun stop ahead inner here next => ?_) _
          exact (keeps_expect (by decide) here next).map _
      | ifWord =>
          have next := next (by decide)
          exact (keeps_conditional next).since _
      | functionWord => exact (keeps_callable here (next (by decide))).map _
      | macroWord => exact (keeps_callable here (next (by decide))).map _
      | leftBracket =>
          have next := next (by decide)
          exact ((keeps_expressionList (by decide) next).map _).since _
      | leftBrace =>
          have next : Cursor.AtLevel after rest (level + 1) := here.next_of_leftBrace rfl
          exact ((keeps_pairList next).map _).since _
      | _ => exact keeps_fail here
termination_by 8 * cursor.length + 3
decreasing_by
  all_goals
    subst_vars
    simp only [List.length_cons] at *
    omega

theorem keeps_conditional {level : Nat} {cursor : Cursor} (here : cursor.AtLevel rest level) :
    (conditional cursor).Keeps rest level := by
  rw [conditional]
  refine (keeps_expression .lowest here).andThen (Nat.le_refl _)
    fun tested ahead condition tested_at next => ?_
  refine keeps_expect_andThen tested_at next (Nat.le_refl _) fun opened ahead' brace opened_at => ?_
  have := ((opened.next_suffix.trans ahead').trans ahead).length_le
  refine ((keeps_block (opened_at.next_of_leftBrace brace)).since _).andThen (Nat.le_refl _)
    fun closed ahead'' consequence closed_at next => ?_
  split
  · next isElse =>
    refine Keeps.since (keeps_expect_andThen next (next.next_of_kind isElse (by decide))
      (Nat.le_refl _) fun reopened ahead''' brace reopened_at => ?_) _
    have := ((reopened.next_suffix.trans ahead''').trans closed.next_suffix).length_le
    have := ((ahead''.trans ahead').trans ahead).length_le
    exact ((keeps_block (reopened_at.next_of_leftBrace brace)).map _).since _
  · exact keeps_succeed closed_at next
termination_by 8 * cursor.length + 7
decreasing_by
  all_goals omega

theorem keeps_callable {level : Nat} {token : Token} {after : Cursor}
    (here : Cursor.AtLevel (token :: after) rest level) (next : Cursor.AtLevel after rest level) :
    (callable token after).Keeps rest level := by
  rw [callable]
  refine keeps_expect_andThen here next (Nat.le_refl _) fun listed ahead isParen listed_at => ?_
  refine (keeps_parameterList listed_at (listed_at.next_of_kind isParen (by decide))).andThen
    (Nat.le_refl _) fun headed ahead' parameters headed_at next => ?_
  refine keeps_expect_andThen headed_at next (Nat.le_refl _)
    fun opened ahead'' brace opened_at => ?_
  have := ((ahead''.trans ahead').trans ahead).length_le
  have := Cursor.length_next opened
  exact ((keeps_block (opened_at.next_of_leftBrace brace)).map _).since _
termination_by 8 * (token :: after).length
decreasing_by
  all_goals
    simp only [List.length_cons] at *
    omega

theorem keeps_continuation (weaker : Strength) (left : Expression) {level : Nat} {cursor : Cursor}
    (here : cursor.AtLevel rest level) (next : cursor.next.AtLevel rest level) :
    (continuation weaker left cursor).Keeps rest level := by
  rw [continuation]
  split
  · next continues =>
    have shorter := Cursor.length_next_lt_of_strength continues.2
    refine Keeps.since ((keeps_extension left next).andThen (Nat.le_refl _)
      fun stop ahead extended here next => ?_) _
    have := ahead.length_le
    exact keeps_continuation weaker extended here next
  · exact keeps_succeed here next
termination_by 8 * cursor.length + 2
decreasing_by
  all_goals omega

theorem keeps_extension (left : Expression) {level : Nat} {cursor : Cursor}
    (here : cursor.AtLevel rest level) : (extension left cursor).Keeps rest level := by
  cases cursor with
  | nil => exact absurd rfl here.kind_ne_endOfInput
  | cons token after =>
      have plain : token.kind ∉ TokenKind.marks → Cursor.AtLevel after rest level :=
        fun plain => here.next_of_plain plain
      rw [extension.eq_def]
      dsimp only
      split
      · next isParen =>
        exact ((keeps_expressionList (by decide) (plain (by rw [isParen]; decide))).map _).since _
      · next isBracket =>
        refine Keeps.since ((keeps_expression .lowest (plain (by rw [isBracket]; decide))).andThen
          (Nat.le_refl _) fun stop ahead position here next => ?_) _
        exact (keeps_expect (by decide) here next).map _
      · split
        · next operator isOperator =>
          have next := plain (by
            rw [BinaryOperator.kind_of_ofKind? isOperator]
            cases operator <;> decide)
          exact ((keeps_expression _ next).map _).since _
        · exact keeps_fail here
termination_by 8 * cursor.length + 2
decreasing_by
  all_goals
    subst_vars
    simp only [List.length_cons] at *
    omega

theorem keeps_expressionList {close : TokenKind} (plain : close ∉ TokenKind.marks)
    {level : Nat} {cursor : Cursor} (here : cursor.AtLevel rest level) :
    (expressionList close cursor).Keeps rest level := by
  rw [expressionList]
  split
  · next closed => exact keeps_succeed here (here.next_of_kind closed plain)
  · exact keeps_expressionItems plain here
termination_by 8 * cursor.length + 6

theorem keeps_expressionItems {close : TokenKind} (plain : close ∉ TokenKind.marks)
    {level : Nat} {cursor : Cursor} (here : cursor.AtLevel rest level) :
    (expressionItems close cursor).Keeps rest level := by
  rw [expressionItems]
  refine (keeps_expression .lowest here).andThen (Nat.le_refl _) fun stop ahead item here next => ?_
  split
  · next more =>
    have shorter := @Cursor.length_next_lt_of_peek stop (by rw [more]; decide)
    have := ahead.length_le
    have := Cursor.length_next stop.next
    exact ((keeps_expressionItems plain (next.next_of_kind more (by decide))).map _).since _
  · exact (keeps_expect plain here next).map _
termination_by 8 * cursor.length + 5
decreasing_by
  all_goals omega

/-- Pairs are entered after their opening brace, one level deeper than where they end. -/
theorem keeps_pairList {level : Nat} {cursor : Cursor} (here : cursor.AtLevel rest (level + 1)) :
    (pairList cursor).Keeps rest level := by
  have shallower : level ≤ level + 1 := Nat.le_succ level
  rw [pairList]
  split
  · next closed => exact keeps_succeed (here.mono shallower) (here.next_of_rightBrace closed)
  · refine (keeps_expression .lowest here).andThen shallower fun keyed ahead key keyed_at next => ?_
    refine keeps_expect_andThen keyed_at next shallower fun colon ahead' isColon colon_at => ?_
    have := ((colon.next_suffix.trans ahead').trans ahead).length_le
    refine ((keeps_expression .lowest (colon_at.next_of_kind isColon (by decide))).since _).andThen
      shallower fun stop ahead'' value stop_at next => ?_
    split
    · next closed =>
      exact (keeps_succeed (next.mono shallower) (next.next_of_rightBrace closed)).since _
    · split
      · next more =>
        have shorter := @Cursor.length_next_lt_of_peek stop (by rw [more]; decide)
        have := (((ahead''.trans ahead').trans ahead)).length_le
        have := Cursor.length_next stop.next
        exact ((keeps_pairList (next.next_of_kind more (by decide))).map _).since _
      · exact keeps_fail (stop_at.mono shallower)
termination_by 8 * cursor.length + 5
decreasing_by
  all_goals omega

/-- A block is entered after its opening brace, one level deeper than where it ends. -/
theorem keeps_block {level : Nat} {cursor : Cursor} (here : cursor.AtLevel rest (level + 1)) :
    (block cursor).Keeps rest level := by
  have shallower : level ≤ level + 1 := Nat.le_succ level
  have whole : (statement cursor).Keeps rest (level + 1) := by
    rw [statement_eq]
    refine (keeps_sentence here).andThen (Nat.le_refl _) fun stop ahead value here next => ?_
    rw [closeStatement]
    split
    · next semicolon => exact (keeps_succeed next (next.next_of_semicolon semicolon)).since _
    · exact keeps_succeed here next
  rw [block]
  split
  · next closed => exact keeps_succeed (here.mono shallower) (here.next_of_rightBrace closed)
  · split
    · next ended => exact absurd ended here.kind_ne_endOfInput
    · next more =>
      have shorter := Cursor.length_next_lt more
      have := Cursor.length_next cursor
      refine whole.orSkip (fun stop ahead first next => ?_) fun stop ahead stop_at => ?_
      · have := ahead.length_le
        have := Cursor.length_next stop
        exact ((keeps_block next).map _).since _
      · have := ahead.length_le
        have := Cursor.length_next stop
        dsimp only
        split
        · next closed =>
          exact keeps_succeed (stop_at.mono shallower) (stop_at.next_of_rightBrace closed)
        · next other => exact (keeps_block (stop_at.next_of_ne other)).since _
termination_by 8 * cursor.length + 6
decreasing_by
  all_goals omega
end

end MonkeyLang
