import MonkeyLang.Parsing
import MonkeyLang.Proofs.Parsing.Guarantee
import MonkeyLang.Proofs.Scanning.Literals

/-!
# What is read can be written down

Whatever a text is, the program that is read from it is renderable
(`renderable_parseText`). The scanner gives an identifier only for a word that is
no keyword, and a string only for a text between two quotes; and the parser
takes every name and every string of a tree from such a token, and builds no
group of statements. Malformed statements make no difference, because nothing of
them is kept.
-/

set_option autoImplicit false

namespace MonkeyLang

/-! ## Cursors in sound tokens -/

/-- All tokens from the current one on are sound. -/
def Cursor.Sound (cursor : Cursor) : Prop :=
  ∀ token ∈ cursor, token.Sound

theorem Cursor.Sound.of_suffix {cursor stop : Cursor} (sound : cursor.Sound)
    (ahead : stop <:+ cursor) : stop.Sound :=
  fun token mem => sound token (ahead.mem mem)

theorem Cursor.Sound.next {cursor : Cursor} (sound : cursor.Sound) : cursor.next.Sound :=
  sound.of_suffix cursor.next_suffix

/-- The current token carries a name if it is an identifier. -/
theorem Cursor.Sound.isName {cursor : Cursor} (sound : cursor.Sound)
    (identifier : cursor.kind = .identifier) : IsName cursor.literal := by
  cases cursor with
  | nil => cases identifier
  | cons token rest => exact (sound token List.mem_cons_self).1 identifier

/-! ## Productions -/

open Reply

theorem ensures_parameterNames_isName (cursor : Cursor) (sound : cursor.Sound) :
    (parameterNames cursor).Ensures fun names _ => ∀ name ∈ names, IsName name := by
  rw [parameterNames]
  refine (ensures_expect .identifier cursor).andThen fun stop ahead _ identifier => ?_
  have here := sound.of_suffix ahead
  have name := here.isName identifier
  split
  · next more =>
    have shorter := @Cursor.length_next_lt_of_peek stop (by rw [more]; decide)
    have := ahead.length_le
    refine Ensures.map (((ensures_parameterNames_isName stop.next here.next).since _).mono ?_)
    intro names _ others
    rw [List.forall_mem_cons]
    exact ⟨name, others⟩
  · refine Ensures.map ?_
    intro _ _
    rwa [List.forall_mem_singleton]
termination_by cursor.length
decreasing_by omega

theorem ensures_parameterList_isName (cursor : Cursor) (sound : cursor.Sound) :
    (parameterList cursor).Ensures fun names _ => ∀ name ∈ names, IsName name := by
  rw [parameterList]
  split
  · refine Ensures.since (ensures_succeed ?_) _
    rintro _ ⟨⟩
  · exact ensures_parameterNames_isName cursor sound

mutual
/-- **What a statement is read as can be written down.** -/
theorem ensures_statement_renderable (cursor : Cursor) (sound : cursor.Sound) :
    (statement cursor).Ensures fun value _ => value.Renderable := by
  have closes : ∀ (stop : Cursor) (value : Statement), value.Renderable →
      (closeStatement stop value).Ensures fun value _ => value.Renderable := by
    intro stop value renderable
    rw [closeStatement]
    split
    · exact (ensures_succeed renderable).since _
    · exact ensures_succeed renderable
  rw [statement]
  split
  · refine (ensures_expect .identifier cursor).andThen fun named ahead _ identifier => ?_
    refine ensures_andThen fun assigned ahead' _ => ?_
    have here := sound.of_suffix ahead
    have := ahead.length_le
    have := ahead'.length_le
    have := Cursor.length_next assigned
    refine ((ensures_expression_renderable .lowest assigned.next
      (here.of_suffix ahead').next).since _).andThen fun stop _ value renderable => ?_
    exact closes stop _ ⟨here.isName identifier, renderable⟩
  · have := Cursor.length_next cursor
    exact ((ensures_expression_renderable .lowest cursor.next sound.next).since _).andThen
      fun stop _ value renderable => closes stop _ renderable
  · exact (ensures_expression_renderable .lowest cursor sound).andThen
      fun stop _ value renderable => closes stop _ renderable
termination_by 8 * cursor.length + 5
decreasing_by all_goals omega

theorem ensures_expression_renderable (weaker : Strength) (cursor : Cursor)
    (sound : cursor.Sound) :
    (expression weaker cursor).Ensures fun value _ => value.Renderable := by
  rw [expression]
  exact (ensures_operand_renderable cursor sound).andThen fun stop ahead left renderable =>
    ensures_continuation_renderable weaker renderable stop (sound.of_suffix ahead)
termination_by 8 * cursor.length + 4
decreasing_by all_goals grind only [→ List.IsSuffix.length_le]

theorem ensures_operand_renderable (cursor : Cursor) (sound : cursor.Sound) :
    (operand cursor).Ensures fun value _ => value.Renderable := by
  cases cursor with
  | nil =>
      rw [operand]
      exact ensures_fail _
  | cons token rest =>
      obtain ⟨kind, literal⟩ := token
      have first := sound ⟨kind, literal⟩ List.mem_cons_self
      have inner : Cursor.Sound rest := sound.of_suffix (List.suffix_cons _ _)
      rw [operand]
      cases kind with
      | identifier => exact ensures_succeed (first.1 rfl)
      | string => exact ensures_succeed (first.2 rfl)
      | trueWord | falseWord => exact ensures_succeed trivial
      | integer =>
          dsimp only
          split
          · exact ensures_succeed trivial
          · exact ensures_fail _
      | bang => exact (ensures_expression_renderable .unary rest inner).map.since _
      | minus =>
          dsimp only
          split
          · next value _ =>
            have renderable : (Expression.integer value).Renderable := trivial
            exact (ensures_continuation_renderable .unary renderable rest inner).since _
          · exact (ensures_expression_renderable .unary rest inner).map.since _
      | leftParen =>
          refine Ensures.since (Ensures.andThen
            (ensures_expression_renderable .lowest rest inner) ?_) _
          intro stop ahead value renderable
          exact Ensures.map fun _ _ => renderable
      | ifWord => exact (ensures_conditional_renderable rest inner).since _
      | functionWord | macroWord => exact (ensures_callable_renderable _ rest sound).map
      | leftBracket =>
          exact (ensures_expressionList_renderable .rightBracket rest inner).map.since _
      | leftBrace => exact (ensures_pairList_renderable rest inner).map.since _
      | _ => exact ensures_fail _
termination_by 8 * cursor.length + 3
decreasing_by all_goals grind only [List.length_cons]

theorem ensures_conditional_renderable (cursor : Cursor) (sound : cursor.Sound) :
    (conditional cursor).Ensures fun value _ => value.Renderable := by
  rw [conditional]
  refine (ensures_expression_renderable .lowest cursor sound).andThen
    fun tested ahead condition test => ensures_andThen fun opened ahead' _ => ?_
  have here := (sound.of_suffix ahead).of_suffix ahead'
  refine ((ensures_block_renderable opened.next here.next).since _).andThen
    fun closed further consequence body => ?_
  split
  · refine Ensures.since (ensures_andThen fun reopened further' _ => ?_) _
    have there := (here.of_suffix further).next.of_suffix further'
    refine Ensures.since (Ensures.map ?_) _
    exact (ensures_block_renderable reopened.next there.next).mono
      fun _ _ otherwise => ⟨test, body, otherwise⟩
  · exact ensures_succeed ⟨test, body⟩
termination_by 8 * cursor.length + 7
decreasing_by all_goals grind only [→ List.IsSuffix.length_le, Cursor.length_next]

theorem ensures_callable_renderable (token : Token) (rest : Cursor)
    (sound : Cursor.Sound (token :: rest)) :
    (callable token rest).Ensures fun parts _ =>
      (∀ name ∈ parts.1, IsName name) ∧ StatementsRenderable parts.2 := by
  rw [callable]
  refine ensures_andThen fun listed ahead _ => ?_
  have here := sound.of_suffix ahead
  refine (ensures_parameterList_isName listed here).andThen fun headed ahead' _ names => ?_
  refine ensures_andThen fun opened further _ => ?_
  have there := (here.of_suffix ahead').of_suffix further
  refine Ensures.since (Ensures.map ?_) _
  exact (ensures_block_renderable opened.next there.next).mono fun _ _ body => ⟨names, body⟩
termination_by 8 * (token :: rest).length
decreasing_by
  all_goals grind only [→ List.IsSuffix.length_le, Cursor.length_next, List.length_cons]

theorem ensures_continuation_renderable (weaker : Strength) {left : Expression}
    (renderable : left.Renderable) (cursor : Cursor) (sound : cursor.Sound) :
    (continuation weaker left cursor).Ensures fun value _ => value.Renderable := by
  rw [continuation]
  split
  · next continues =>
    have shorter := Cursor.length_next_lt_of_strength continues.2
    exact ((ensures_extension_renderable renderable cursor.next sound.next).andThen
      fun stop ahead extended renderable =>
        ensures_continuation_renderable weaker renderable stop
          (sound.next.of_suffix ahead)).since _
  · exact ensures_succeed renderable
termination_by 8 * cursor.length + 2
decreasing_by all_goals grind only [→ List.IsSuffix.length_le]

theorem ensures_extension_renderable {left : Expression} (renderable : left.Renderable)
    (cursor : Cursor) (sound : cursor.Sound) :
    (extension left cursor).Ensures fun value _ => value.Renderable := by
  rw [extension.eq_def]
  split
  · exact ensures_fail _
  · next token rest =>
    have inner : Cursor.Sound rest := sound.of_suffix (List.suffix_cons _ _)
    split
    · refine Ensures.since (Ensures.map ?_) _
      exact (ensures_expressionList_renderable .rightParen rest inner).mono
        fun _ _ arguments => ⟨renderable, arguments⟩
    · refine Ensures.since (Ensures.andThen
        (ensures_expression_renderable .lowest rest inner) ?_) _
      intro stop ahead position place
      exact Ensures.map fun _ _ => ⟨renderable, place⟩
    · split
      · refine Ensures.since (Ensures.map ?_) _
        exact (ensures_expression_renderable _ rest inner).mono
          fun _ _ right => ⟨renderable, right⟩
      · exact ensures_fail _
termination_by 8 * cursor.length + 2
decreasing_by all_goals grind only [List.length_cons]

theorem ensures_expressionList_renderable (close : TokenKind) (cursor : Cursor)
    (sound : cursor.Sound) :
    (expressionList close cursor).Ensures fun list _ => ExpressionsRenderable list := by
  rw [expressionList]
  split
  · exact ensures_succeed trivial
  · exact ensures_expressionItems_renderable close cursor sound
termination_by 8 * cursor.length + 6
decreasing_by all_goals omega

theorem ensures_expressionItems_renderable (close : TokenKind) (cursor : Cursor)
    (sound : cursor.Sound) :
    (expressionItems close cursor).Ensures fun list _ => ExpressionsRenderable list := by
  rw [expressionItems]
  refine (ensures_expression_renderable .lowest cursor sound).andThen
    fun stop ahead item renderable => ?_
  have here := sound.of_suffix ahead
  split
  · next more =>
    refine Ensures.since (Ensures.map ?_) _
    exact (ensures_expressionItems_renderable close stop.next.next here.next.next).mono
      fun _ _ others => ⟨renderable, others⟩
  · exact Ensures.map fun _ _ => ⟨renderable, trivial⟩
termination_by 8 * cursor.length + 5
decreasing_by
  all_goals
    grind only [→ List.IsSuffix.length_le, Cursor.length_next, → Cursor.length_next_lt_of_peek]

theorem ensures_pairList_renderable (cursor : Cursor) (sound : cursor.Sound) :
    (pairList cursor).Ensures fun list _ => PairsRenderable list := by
  rw [pairList]
  split
  · exact ensures_succeed trivial
  · refine (ensures_expression_renderable .lowest cursor sound).andThen
      fun keyed ahead key first => ensures_andThen fun colon ahead' _ => ?_
    have here := (sound.of_suffix ahead).of_suffix ahead'
    refine ((ensures_expression_renderable .lowest colon.next here.next).since _).andThen
      fun stop further value second => ?_
    have there := here.of_suffix further
    split
    · exact (ensures_succeed ⟨⟨first, second⟩, trivial⟩).since _
    · split
      · next more =>
        refine Ensures.since (Ensures.map ?_) _
        exact (ensures_pairList_renderable stop.next.next there.next.next).mono
          fun _ _ others => ⟨⟨first, second⟩, others⟩
      · exact ensures_fail _
termination_by 8 * cursor.length + 5
decreasing_by
  all_goals
    grind only [→ List.IsSuffix.length_le, Cursor.length_next, → Cursor.length_next_lt_of_peek]

theorem ensures_block_renderable (cursor : Cursor) (sound : cursor.Sound) :
    (block cursor).Ensures fun body _ => StatementsRenderable body := by
  rw [block]
  split
  · exact ensures_succeed trivial
  · split
    · exact ensures_fail _
    · next more =>
      have shorter := Cursor.length_next_lt more
      refine (ensures_statement_renderable cursor sound).orSkip ?_ ?_
      · intro stop ahead first renderable
        refine Ensures.since (Ensures.map ?_) _
        exact (ensures_block_renderable stop.next (sound.of_suffix ahead).next).mono
          fun _ _ others => ⟨renderable, others⟩
      · intro stop ahead
        dsimp only
        split
        · exact ensures_succeed trivial
        · exact (ensures_block_renderable stop.next (sound.of_suffix ahead).next).since _
termination_by 8 * cursor.length + 6
decreasing_by
  all_goals grind only [→ List.IsSuffix.length_le, Cursor.length_next, → Cursor.length_next_lt]
end

/-! ## Programs -/

/-- The program that is read from sound tokens, whatever they are, is renderable. -/
theorem renderable_parse (tokens : Cursor) (sound : tokens.Sound) :
    (parse tokens).program.Renderable := by
  rw [parse]
  split
  · trivial
  · next more =>
    have shorter := Cursor.length_next_lt more
    have ahead := (statement tokens).forward
    have := ahead.length_le
    have := Cursor.length_next tokens
    dsimp only
    split
    · next first came =>
      have := Cursor.length_next (statement tokens).stop
      exact ⟨ensures_statement_renderable tokens sound first came,
        renderable_parse _ (sound.of_suffix ahead).next⟩
    · next cause came =>
      have skips := (statement tokens).stop.recover_suffix
      have := skips.length_le
      have := Cursor.length_next (statement tokens).stop.recover
      exact renderable_parse _ (sound.of_suffix (skips.trans ahead)).next
termination_by tokens.length
decreasing_by all_goals omega

/-- **The program that is read from a text is renderable, whatever the text is.** -/
theorem renderable_parseText (text : String) : (parseText text).program.Renderable :=
  renderable_parse _ (sound_tokenize text)

end MonkeyLang
