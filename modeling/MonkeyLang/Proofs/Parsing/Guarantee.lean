import MonkeyLang.Proofs.Parsing.Outcome
import MonkeyLang.Proofs.Parsing.Spelling

/-!
# What a success ensures

A reply ensures a property of its result and of the place where it stopped if
every success has the property. Each combinator of replies has one rule for
this, so a property of the productions is shown production by production.

The first use is the token at which an expression stops: a list stops on its
closing token, a block on a brace, and no expression on a semicolon or on the
end of the input (`ensures_expression_inside`).
-/

set_option autoImplicit false

namespace MonkeyLang

/-! ## Rules -/

namespace Reply

variable {α β : Type} {cursor : Cursor}

/-- If the reply is a success, its result and the cursor at which it stopped have the property. -/
def Ensures (reply : Reply cursor α) (property : α → Cursor → Prop) : Prop :=
  ∀ value, reply.result = .ok value → property value reply.stop

variable {property : α → Cursor → Prop}

theorem ensures_succeed {value : α} (holds : property value cursor) :
    (succeed cursor value).Ensures property := by
  rintro _ ⟨⟩
  exact holds

theorem ensures_fail (cause : Diagnostic) : (fail cursor cause : Reply cursor α).Ensures property := by
  rintro _ ⟨⟩

theorem Ensures.since {start : Cursor} {reply : Reply start α} (ensures : reply.Ensures property)
    (ahead : start <:+ cursor) : (reply.since ahead).Ensures property :=
  ensures

theorem Ensures.mono {weaker : α → Cursor → Prop} {reply : Reply cursor α}
    (ensures : reply.Ensures property) (implies : ∀ value stop, property value stop →
      weaker value stop) : reply.Ensures weaker :=
  fun value succeeds => implies value _ (ensures value succeeds)

theorem Ensures.map {f : α → β} {after : β → Cursor → Prop} {reply : Reply cursor α}
    (ensures : reply.Ensures fun value stop => after (f value) stop) :
    (reply.map f).Ensures after := by
  intro result succeeds
  obtain ⟨first, recorded, stop, forward⟩ := reply
  cases first with
  | error cause => cases succeeds
  | ok value =>
      cases succeeds
      exact ensures value rfl

theorem Ensures.andThen {after : β → Cursor → Prop} {reply : Reply cursor α}
    {following : (stop : Cursor) → stop <:+ cursor → α → Reply stop β}
    (ensures : reply.Ensures property)
    (further : ∀ stop ahead value, property value stop →
      (following stop ahead value).Ensures after) :
    (reply.andThen following).Ensures after := by
  intro result succeeds
  obtain ⟨first, recorded, stop, forward⟩ := reply
  cases first with
  | error cause => cases succeeds
  | ok value => exact further stop forward value (ensures value rfl) result succeeds

/-- A production about which nothing is known is gone on from. -/
theorem ensures_andThen {after : β → Cursor → Prop} {reply : Reply cursor α}
    {following : (stop : Cursor) → stop <:+ cursor → α → Reply stop β}
    (further : ∀ stop ahead value, (following stop ahead value).Ensures after) :
    (reply.andThen following).Ensures after := by
  have nothing : reply.Ensures fun _ _ => True := fun _ _ => trivial
  exact nothing.andThen fun stop ahead value _ => further stop ahead value

theorem Ensures.orSkip {after : β → Cursor → Prop} {reply : Reply cursor α}
    {following : (stop : Cursor) → stop <:+ cursor → Option α → Reply stop β}
    (ensures : reply.Ensures property)
    (kept : ∀ stop ahead value, property value stop →
      (following stop ahead (some value)).Ensures after)
    (skipped : ∀ stop ahead, (following stop ahead none).Ensures after) :
    (reply.orSkip following).Ensures after := by
  intro result succeeds
  obtain ⟨first, recorded, stop, forward⟩ := reply
  cases first with
  | error cause =>
      exact skipped stop.recover (stop.recover_suffix.trans forward) result succeeds
  | ok value => exact kept stop forward value (ensures value rfl) result succeeds

end Reply

open Reply

theorem ensures_expect (kind : TokenKind) (cursor : Cursor) :
    (expect kind cursor).Ensures fun _ stop => stop.kind = kind := by
  rw [expect]
  split
  · next found => exact (ensures_succeed found).since _
  · exact ensures_fail _

/-! ## The token at which a production stops -/

theorem ensures_expressionItems_stop (close : TokenKind) (cursor : Cursor) :
    (expressionItems close cursor).Ensures fun _ stop => stop.kind = close := by
  rw [expressionItems]
  refine ensures_andThen fun stop ahead item => ?_
  split
  · next more =>
    have shorter := @Cursor.length_next_lt_of_peek stop (by rw [more]; decide)
    have := ahead.length_le
    have := Cursor.length_next stop.next
    exact (ensures_expressionItems_stop close stop.next.next).map.since _
  · exact (ensures_expect close stop).map
termination_by cursor.length
decreasing_by omega

theorem ensures_expressionList_stop (close : TokenKind) (cursor : Cursor) :
    (expressionList close cursor).Ensures fun _ stop => stop.kind = close := by
  rw [expressionList]
  split
  · next closed => exact ensures_succeed closed
  · exact ensures_expressionItems_stop close cursor

theorem ensures_pairList_stop (cursor : Cursor) :
    (pairList cursor).Ensures fun _ stop => stop.kind = .rightBrace := by
  rw [pairList]
  split
  · next closed => exact ensures_succeed closed
  · refine ensures_andThen fun keyed ahead key => ensures_andThen fun colon ahead' _ => ?_
    refine ensures_andThen fun stop ahead'' value => ?_
    split
    · next closed => exact (ensures_succeed closed).since _
    · split
      · next more =>
        have shorter := @Cursor.length_next_lt_of_peek stop (by rw [more]; decide)
        have := ahead.length_le
        have := ahead'.length_le
        have := ahead''.length_le
        have := Cursor.length_next stop.next
        exact (ensures_pairList_stop stop.next.next).map.since _
      · exact ensures_fail _
termination_by cursor.length
decreasing_by omega

theorem ensures_block_stop (cursor : Cursor) :
    (block cursor).Ensures fun _ stop => stop.kind = .rightBrace := by
  rw [block]
  split
  · next closed => exact ensures_succeed closed
  · split
    · exact ensures_fail _
    · next more =>
      have shorter := Cursor.length_next_lt more
      have nothing : (statement cursor).Ensures fun _ _ => True := fun _ _ => trivial
      refine nothing.orSkip ?_ ?_
      · intro stop ahead first _
        have := ahead.length_le
        have := Cursor.length_next cursor
        have := Cursor.length_next stop
        exact (ensures_block_stop stop.next).map.since _
      · intro stop ahead
        have := ahead.length_le
        have := Cursor.length_next cursor
        have := Cursor.length_next stop
        dsimp only
        split
        · next closed => exact ensures_succeed closed
        · exact (ensures_block_stop stop.next).since _
termination_by cursor.length
decreasing_by all_goals omega

/-- A token at which no statement ends and the input does not either. -/
def Cursor.Inside (cursor : Cursor) : Prop :=
  cursor.kind ≠ .semicolon ∧ cursor.kind ≠ .endOfInput

theorem Cursor.inside_of_kind {cursor : Cursor} {kind : TokenKind} (known : cursor.kind = kind)
    (inside : kind ≠ .semicolon ∧ kind ≠ .endOfInput) : cursor.Inside := by
  rwa [Cursor.Inside, known]

theorem Cursor.inside_cons {kind : TokenKind} {literal : String} {rest : Cursor}
    (inside : kind ≠ .semicolon ∧ kind ≠ .endOfInput) : Cursor.Inside (⟨kind, literal⟩ :: rest) :=
  inside

theorem ensures_callable_inside (token : Token) (rest : Cursor) :
    (callable token rest).Ensures fun _ stop => stop.Inside := by
  rw [callable]
  refine ensures_andThen fun _ _ _ => ensures_andThen fun _ _ _ => ensures_andThen fun opened _ _ => ?_
  exact (((ensures_block_stop opened.next).mono fun _ _ closed =>
    Cursor.inside_of_kind closed (by decide)).map).since _

theorem ensures_conditional_inside (cursor : Cursor) :
    (conditional cursor).Ensures fun _ stop => stop.Inside := by
  have closes : ∀ cursor : Cursor, (block cursor).Ensures fun _ stop => stop.Inside := fun cursor =>
    (ensures_block_stop cursor).mono fun _ _ closed => Cursor.inside_of_kind closed (by decide)
  rw [conditional]
  refine ensures_andThen fun _ _ _ => ensures_andThen fun opened _ _ => ?_
  refine ((closes opened.next).since _).andThen fun closed _ consequence inside => ?_
  split
  · refine (ensures_andThen fun reopened _ _ => ?_).since _
    exact (closes reopened.next).map.since _
  · exact ensures_succeed inside

mutual
/-- **No expression stops on a semicolon or on the end of the input.** -/
theorem ensures_expression_inside (weaker : Strength) (cursor : Cursor) :
    (expression weaker cursor).Ensures fun _ stop => stop.Inside := by
  rw [expression]
  exact (ensures_operand_inside cursor).andThen fun stop ahead left inside =>
    ensures_continuation_inside weaker left inside
termination_by 8 * cursor.length + 4
decreasing_by all_goals grind only [→ List.IsSuffix.length_le]

theorem ensures_operand_inside (cursor : Cursor) :
    (operand cursor).Ensures fun _ stop => stop.Inside := by
  cases cursor with
  | nil =>
      rw [operand]
      exact ensures_fail _
  | cons token rest =>
      obtain ⟨kind, literal⟩ := token
      rw [operand]
      cases kind with
      | identifier | string | trueWord | falseWord =>
          exact ensures_succeed (Cursor.inside_cons (by decide))
      | integer =>
          dsimp only
          split
          · exact ensures_succeed (Cursor.inside_cons (by decide))
          · exact ensures_fail _
      | bang => exact (ensures_expression_inside .unary rest).map.since _
      | minus =>
          dsimp only
          split
          · next value negated =>
            have integer : Cursor.kind rest = .integer := by
              rw [Cursor.negated?] at negated
              split at negated
              · assumption
              · cases negated
            exact (ensures_continuation_inside .unary (.integer value)
              (Cursor.inside_of_kind integer (by decide))).since _
          · exact (ensures_expression_inside .unary rest).map.since _
      | leftParen =>
          refine Ensures.since (ensures_andThen fun stop _ inner => ?_) _
          exact ((ensures_expect .rightParen stop).mono fun _ _ closed =>
            Cursor.inside_of_kind closed (by decide)).map
      | ifWord => exact (ensures_conditional_inside rest).since _
      | functionWord | macroWord => exact (ensures_callable_inside _ rest).map
      | leftBracket =>
          exact ((ensures_expressionList_stop .rightBracket rest).mono fun _ _ closed =>
            Cursor.inside_of_kind closed (by decide)).map.since _
      | leftBrace =>
          exact ((ensures_pairList_stop rest).mono fun _ _ closed =>
            Cursor.inside_of_kind closed (by decide)).map.since _
      | _ => exact ensures_fail _
termination_by 8 * cursor.length + 3
decreasing_by all_goals grind only [List.length_cons]

theorem ensures_continuation_inside (weaker : Strength) (left : Expression) {cursor : Cursor}
    (inside : cursor.Inside) :
    (continuation weaker left cursor).Ensures fun _ stop => stop.Inside := by
  rw [continuation]
  split
  · next continues =>
    have shorter := Cursor.length_next_lt_of_strength continues.2
    exact ((ensures_extension_inside left cursor.next).andThen fun stop ahead extended inside =>
      ensures_continuation_inside weaker extended inside).since _
  · exact ensures_succeed inside
termination_by 8 * cursor.length + 2
decreasing_by all_goals grind only [→ List.IsSuffix.length_le]

theorem ensures_extension_inside (left : Expression) (cursor : Cursor) :
    (extension left cursor).Ensures fun _ stop => stop.Inside := by
  rw [extension.eq_def]
  split
  · exact ensures_fail _
  · split
    · exact ((ensures_expressionList_stop .rightParen _).mono fun _ _ closed =>
        Cursor.inside_of_kind closed (by decide)).map.since _
    · refine Ensures.since (ensures_andThen fun stop _ position => ?_) _
      exact ((ensures_expect .rightBracket stop).mono fun _ _ closed =>
        Cursor.inside_of_kind closed (by decide)).map
    · split
      · exact (ensures_expression_inside _ _).map.since _
      · exact ensures_fail _
termination_by 8 * cursor.length + 2
decreasing_by all_goals grind only [List.length_cons]
end

end MonkeyLang
