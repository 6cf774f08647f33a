import MonkeyLang.Proofs.Parsing.Outcome
import MonkeyLang.Proofs.Parsing.Spelling

/-!
# What a production looks at

A production is told by the tokens up to the one at which it stops and by the
kind of the token after that one (`LocalAt`). Whatever stands further on can be
exchanged for anything else: the result, the diagnostics recorded on the way and
the place of the stop stay the same.

If a production succeeds and records nothing, the kind of the token after its
stop can be exchanged too, as long as it closes a block or ends the input before
and after: neither kind goes on with an expression, and no production asks for
one of them beyond the place where it stops.

The locality of every production follows from that of the steps without
recursion, because it is passed on when one production goes on after another.
-/

set_option autoImplicit false

namespace MonkeyLang

/-- A production, as a function of the cursor at which it is entered. -/
abbrev Production (α : Type) := (cursor : Cursor) → Reply cursor α

/-- The kinds of tokens before which the last statement of a block or a program ends. -/
def TokenKind.lastEnds : List TokenKind :=
  [.rightBrace, .endOfInput]

/-! ## Cursors with the same front -/

/-- The same current token, and a token of the same kind after it. -/
structure Cursor.Agrees (cursor other : Cursor) : Prop where
  current : cursor.head? = other.head?
  peek : cursor.peek = other.peek

namespace Cursor

variable {cursor other : Cursor}

theorem kind_of_current (same : cursor.head? = other.head?) : cursor.kind = other.kind := by
  cases cursor <;> cases other <;> simp_all [kind]

theorem literal_of_current (same : cursor.head? = other.head?) :
    cursor.literal = other.literal := by
  cases cursor <;> cases other <;> simp_all [literal]

theorem negated?_of_current (same : cursor.head? = other.head?) :
    cursor.negated? = other.negated? := by
  rw [negated?, negated?, kind_of_current same, literal_of_current same]

theorem current_append (used : List Token) (same : cursor.head? = other.head?) :
    (used ++ cursor).head? = (used ++ other).head? := by
  cases used with
  | nil => exact same
  | cons token rest => rfl

/-- After a token, only the kind of the next one is looked at. -/
theorem peek_append {used : List Token} (used_ne_nil : used ≠ [])
    (same : cursor.head? = other.head?) : Cursor.peek (used ++ cursor) = Cursor.peek (used ++ other) := by
  cases used with
  | nil => exact absurd rfl used_ne_nil
  | cons token rest => exact kind_of_current (current_append rest same)

theorem Agrees.append (agrees : cursor.Agrees other) (used : List Token) :
    Agrees (used ++ cursor) (used ++ other) := by
  refine ⟨current_append used agrees.current, ?_⟩
  cases used with
  | nil => exact agrees.peek
  | cons token rest => exact peek_append (List.cons_ne_nil _ _) agrees.current

theorem Agrees.atBoundary (agrees : cursor.Agrees other) :
    cursor.atBoundary = other.atBoundary := by
  rw [Cursor.atBoundary, Cursor.atBoundary, kind_of_current agrees.current, agrees.peek]

theorem recover_of_atBoundary (boundary : cursor.atBoundary = true) : cursor.recover = cursor := by
  cases cursor with
  | nil => rfl
  | cons token rest => rw [recover, if_pos boundary]

/-- A boundary is found by the tokens before it and its front. -/
theorem recover_local {used : List Token} (found : recover (used ++ cursor) = cursor)
    (agrees : cursor.Agrees other) : recover (used ++ other) = other := by
  induction used with
  | nil =>
      cases cursor with
      | nil =>
          have ended : other = [] := List.head?_eq_none_iff.mp agrees.current.symm
          rw [ended]
          rfl
      | cons token rest =>
          have boundary : atBoundary (token :: rest) = true := by
            rw [List.nil_append, recover] at found
            split at found
            · assumption
            · have shorter := (recover_suffix rest).length_le
              rw [found, List.length_cons] at shorter
              omega
          exact recover_of_atBoundary (agrees.atBoundary ▸ boundary)
  | cons token rest ih =>
      have same := (agrees.append (token :: rest)).atBoundary
      rw [List.cons_append, List.cons_append] at same
      rw [List.cons_append, recover] at found ⊢
      by_cases boundary : atBoundary (token :: (rest ++ cursor)) = true
      · -- A boundary further on is not the first one.
        rw [if_pos boundary] at found
        have longer := congrArg List.length found
        simp only [List.length_cons, List.length_append] at longer
        omega
      · rw [if_neg boundary] at found
        rw [if_neg (same ▸ boundary)]
        exact ih found

end Cursor

/-! ## Local productions -/

namespace Reply

variable {α β : Type} {cursor : Cursor}

/-- The result of a reply, what it recorded, and where it stopped. -/
def parts (reply : Reply cursor α) : Except Diagnostic α × List Diagnostic × Cursor :=
  (reply.result, reply.recorded, reply.stop)

theorem ext_parts {reply reply' : Reply cursor α} (same : reply.parts = reply'.parts) :
    reply = reply' := by
  obtain ⟨result, recorded, stop, forward⟩ := reply
  obtain ⟨result', recorded', stop', forward'⟩ := reply'
  simp only [parts, Prod.mk.injEq] at same
  obtain ⟨rfl, rfl, rfl⟩ := same
  rfl

theorem andThen_assoc {γ : Type} (reply : Reply cursor α)
    (following : (stop : Cursor) → stop <:+ cursor → α → Reply stop β)
    (last : (stop : Cursor) → β → Reply stop γ) :
    ((reply.andThen following).andThen fun stop _ value => last stop value) =
      reply.andThen fun stop ahead value =>
        (following stop ahead value).andThen fun stop _ value => last stop value := by
  obtain ⟨result, recorded, stop, forward⟩ := reply
  cases result with
  | error cause => rfl
  | ok value =>
      apply ext_parts
      simp only [andThen, parts]
      cases (following stop forward value).result with
      | error cause => rfl
      | ok value' => simp only [List.append_assoc]

theorem map_andThen {γ : Type} (reply : Reply cursor α) (f : α → β)
    (last : (stop : Cursor) → β → Reply stop γ) :
    ((reply.map f).andThen fun stop _ value => last stop value) =
      reply.andThen fun stop _ value => last stop (f value) := by
  obtain ⟨result, recorded, stop, forward⟩ := reply
  cases result <;> rfl

theorem since_map_andThen {γ : Type} {start : Cursor} (ahead : start <:+ cursor)
    (reply : Reply start α) (f : α → β) (last : (stop : Cursor) → β → Reply stop γ) :
    (((reply.map f).since ahead).andThen fun stop _ value => last stop value) =
      (reply.since ahead).andThen fun stop _ value => last stop (f value) := by
  obtain ⟨result, recorded, stop, forward⟩ := reply
  cases result <;> rfl

/-- A success on the way to which nothing was recorded. -/
def Clean (reply : Reply cursor α) : Prop :=
  reply.result.isOk = true ∧ reply.recorded = []

/-- Where the reply stopped, other tokens can stand: the current token is the same, and the one
after it has the same kind or, for a clean reply, ends the last statement as the first one did. -/
def Allows (reply : Reply cursor α) (other : Cursor) : Prop :=
  reply.stop.head? = other.head? ∧
    (reply.stop.peek = other.peek ∨
      reply.Clean ∧ reply.stop.peek ∈ TokenKind.lastEnds ∧ other.peek ∈ TokenKind.lastEnds)

theorem Allows.of_agrees {reply : Reply cursor α} {other : Cursor}
    (agrees : reply.stop.Agrees other) : reply.Allows other :=
  ⟨agrees.current, .inl agrees.peek⟩

/-- If the reply stopped before the cursor in question, its front is the same. -/
theorem Allows.agrees {reply : Reply cursor α} {other : Cursor} (allows : reply.Allows other)
    {used : List Token} (further : used ≠ []) :
    Cursor.Agrees (used ++ reply.stop) (used ++ other) :=
  ⟨Cursor.current_append used allows.1, Cursor.peek_append further allows.1⟩

theorem Allows.agrees_of_not_clean {reply : Reply cursor α} {other : Cursor}
    (allows : reply.Allows other) (unclean : ¬ reply.Clean) : reply.stop.Agrees other :=
  ⟨allows.1, allows.2.resolve_right fun ends => unclean ends.1⟩

theorem recover_forward (reply : Reply cursor α) : reply.stop.recover <:+ cursor :=
  reply.stop.recover_suffix.trans reply.forward

/-- The reply with a failure turned into a success without a value: the cause is recorded and the
rest of the malformed statement left out. -/
def attempt (reply : Reply cursor α) : Reply cursor (Option α) :=
  match reply.result with
  | .ok value => ⟨.ok (some value), reply.recorded, reply.stop, reply.forward⟩
  | .error cause => ⟨.ok none, reply.recorded ++ [cause], reply.stop.recover, reply.recover_forward⟩

theorem orSkip_eq (reply : Reply cursor α)
    (following : (stop : Cursor) → stop <:+ cursor → Option α → Reply stop β) :
    reply.orSkip following = reply.attempt.andThen following := by
  obtain ⟨result, recorded, stop, forward⟩ := reply
  cases result with
  | ok value => rfl
  | error cause => simp only [orSkip, attempt, andThen, List.append_assoc, List.singleton_append]

end Reply

/-- At this cursor the production depends on the tokens up to its stop and on the front there. -/
def LocalAt {α : Type} (production : Production α) (cursor : Cursor) : Prop :=
  ∀ used other, cursor = used ++ (production cursor).stop →
    (production cursor).Allows other →
      (production (used ++ other)).parts =
        ((production cursor).result, (production cursor).recorded, other)

section Combinators

variable {α β : Type} {production : Production α} {cursor : Cursor}

/-- A production that is decided by the current token alone. -/
theorem LocalAt.of_current (branch : Production α)
    (same : ∀ other : Cursor, cursor.head? = other.head? → production other = branch other)
    (here : LocalAt branch cursor) : LocalAt production cursor := by
  intro used other split allows
  rw [same cursor rfl] at split allows ⊢
  have current := Cursor.current_append used allows.1
  rw [← split] at current
  rw [same _ current]
  exact here used other split allows

theorem LocalAt.of_cons (branch : Production α) {token : Token} {rest : Cursor}
    (same : ∀ rest, production (token :: rest) = branch (token :: rest))
    (here : LocalAt branch (token :: rest)) : LocalAt production (token :: rest) := by
  refine LocalAt.of_current branch (fun other current => ?_) here
  obtain ⟨tail, rfl⟩ : ∃ tail, other = token :: tail := List.head?_eq_some_iff.mp current.symm
  exact same tail

/-- A production that is decided by the kind of the token after the current one. The kinds that end
the last statement are told apart from all others only. -/
theorem LocalAt.ite_peek (test : TokenKind → Prop) [DecidablePred test]
    {yes no : Production α} (ends : ∀ kind ∈ TokenKind.lastEnds, ¬ test kind)
    (passed : test cursor.peek → LocalAt yes cursor)
    (failed : ¬ test cursor.peek → LocalAt no cursor) :
    LocalAt (fun cursor => if test cursor.peek then yes cursor else no cursor) cursor := by
  intro used other split allows
  have peek : (test cursor.peek ↔ test (Cursor.peek (used ++ other))) := by
    by_cases further : used = []
    · subst further
      rw [List.nil_append] at split ⊢
      rcases allows.2 with same | ⟨_, first, second⟩
      · rw [← split] at same
        rw [same]
      · rw [← split] at first
        exact iff_of_false (ends _ first) (ends _ second)
    · rw [← (allows.agrees further).peek, ← split]
  by_cases holds : test cursor.peek
  · simp only [if_pos holds, if_pos (peek.mp holds)] at split allows ⊢
    exact passed holds used other split allows
  · simp only [if_neg holds, if_neg (mt peek.mpr holds)] at split allows ⊢
    exact failed holds used other split allows

/-- A production that stops where it is entered, whatever stands there. -/
theorem localAt_of_stays (parts : Except Diagnostic α × List Diagnostic)
    (stays : ∀ other : Cursor, (production other).parts = (parts.1, parts.2, other)) :
    LocalAt production cursor := by
  intro used other split _
  have here := stays cursor
  simp only [Reply.parts, Prod.mk.injEq] at here
  obtain ⟨result, recorded, stop⟩ := here
  have nothing : used = [] := by
    rw [stop] at split
    exact List.self_eq_append_left.mp split
  subst nothing
  rw [result, recorded]
  exact stays other

theorem localAt_succeed (value : α) : LocalAt (fun cursor => Reply.succeed cursor value) cursor :=
  localAt_of_stays (.ok value, []) fun _ => rfl

theorem localAt_fail (cause : Diagnostic) :
    LocalAt (fun cursor => (Reply.fail cursor cause : Reply cursor α)) cursor :=
  localAt_of_stays (.error cause, []) fun _ => rfl

/-- A failure may name the kind of the token after the current one. -/
theorem localAt_fail_peek (cause : TokenKind → Diagnostic) :
    LocalAt (fun cursor => (Reply.fail cursor (cause cursor.peek) : Reply cursor α)) cursor := by
  intro used other split allows
  have agrees := allows.agrees_of_not_clean fun clean => Bool.noConfusion clean.1
  have nothing : used = [] := List.self_eq_append_left.mp split
  subst nothing
  have peek : cursor.peek = other.peek := agrees.peek
  rw [List.nil_append]
  simp only [Reply.parts, Reply.fail, peek]

/-- Entering one token further on. -/
theorem LocalAt.advance (further : LocalAt production cursor.next) :
    LocalAt (fun cursor => (production cursor.next).since cursor.next_suffix) cursor := by
  intro used other split allows
  cases cursor with
  | nil =>
      obtain ⟨rfl, ended⟩ := List.append_eq_nil_iff.mp split.symm
      have same := allows.1
      rw [ended] at same
      have nothing : other = [] := List.head?_eq_none_iff.mp same.symm
      subst nothing
      exact Prod.ext rfl (Prod.ext rfl ended)
  | cons token rest =>
      cases used with
      | nil =>
          -- The stop is a suffix of the rest, so a token stands before it.
          have shorter := (production rest).forward.length_le
          rw [List.nil_append] at split
          have longer := congrArg List.length split
          simp only [Reply.since, Cursor.next, List.tail_cons, List.length_cons] at longer
          omega
      | cons first used =>
          rw [List.cons_append, List.cons.injEq] at split
          obtain ⟨rfl, split⟩ := split
          exact further used other split allows

theorem LocalAt.advance_cons {token : Token} {rest : Cursor} (further : LocalAt production rest) :
    LocalAt (fun cursor => (production cursor.next).since cursor.next_suffix) (token :: rest) :=
  @LocalAt.advance α production (token :: rest) further

/-- A production that goes one token further on as soon as it sees this one. -/
theorem LocalAt.of_cons_advance (branch : Production α) {token : Token} {rest : Cursor}
    (same : ∀ rest, production (token :: rest) =
      (branch rest).since (List.suffix_cons token rest))
    (here : LocalAt branch rest) : LocalAt production (token :: rest) :=
  .of_cons (fun cursor => (branch cursor.next).since cursor.next_suffix) same here.advance_cons

/-- A production that takes a closing brace in. Before the end of the input it must not succeed. -/
theorem LocalAt.ite_rightBrace {yes no : Production α}
    (passed : cursor.peek = .rightBrace → LocalAt yes cursor.next)
    (failed : cursor.peek ≠ .rightBrace → LocalAt no cursor)
    (unclean : cursor.peek = .endOfInput → ¬ (no cursor).Clean) :
    LocalAt (fun cursor => if cursor.peek = .rightBrace then
      (yes cursor.next).since cursor.next_suffix else no cursor) cursor := by
  intro used other split allows
  by_cases closes : cursor.peek = .rightBrace
  · simp only [if_pos closes] at split allows ⊢
    have some_used : used ≠ [] := by
      rintro rfl
      have shorter := (yes cursor.next).forward.length_le
      have fewer := Cursor.length_next_lt_of_peek (by rw [closes]; decide)
      have longer := congrArg List.length split
      simp only [Reply.since, List.nil_append] at longer
      omega
    have peek := (allows.agrees some_used).peek
    rw [← split, closes] at peek
    rw [if_pos peek.symm]
    exact LocalAt.advance (passed closes) used other split allows
  · simp only [if_neg closes] at split allows ⊢
    have peek : Cursor.peek (used ++ other) ≠ .rightBrace := by
      by_cases further : used = []
      · subst further
        rw [List.nil_append] at split ⊢
        rcases allows.2 with same | ⟨clean, first, _⟩
        · rwa [← same, ← split]
        · rw [← split] at first
          have ended : cursor.peek = .endOfInput := by
            simpa [TokenKind.lastEnds, closes] using first
          exact absurd clean (unclean ended)
      · rwa [← (allows.agrees further).peek, ← split]
    rw [if_neg peek]
    exact failed closes used other split allows

theorem LocalAt.map (here : LocalAt production cursor) (f : α → β) :
    LocalAt (fun cursor => (production cursor).map f) cursor := by
  intro used other split allows
  have clean : ((production cursor).map f).Clean → (production cursor).Clean := by
    rintro ⟨succeeds, recorded⟩
    refine ⟨?_, recorded⟩
    revert succeeds
    simp only [Reply.map]
    cases (production cursor).result <;> simp [Except.map, Except.isOk, Except.toBool]
  have read := here used other split ⟨allows.1, allows.2.imp_right fun ends => ⟨clean ends.1, ends.2⟩⟩
  simp only [Reply.parts, Prod.mk.injEq] at read
  simp only [Reply.parts, Reply.map, read]

/-- Going on from the stop with a production that is local there. -/
theorem LocalAt.andThen {following : α → Production β} (first : LocalAt production cursor)
    (further : ∀ stop : Cursor, stop <:+ cursor → ∀ value, (production cursor).stop = stop →
      (production cursor).result = .ok value → LocalAt (following value) stop) :
    LocalAt (fun cursor => (production cursor).andThen fun stop _ value => following value stop)
      cursor := by
  intro used other split allows
  dsimp only at split allows ⊢
  cases came : (production cursor).result with
  | error cause =>
      have fails : (production cursor).andThen (fun stop _ value => following value stop) =
          ⟨.error cause, (production cursor).recorded, (production cursor).stop,
            (production cursor).forward⟩ := by
        rw [Reply.andThen, came]
      simp only [fails] at split allows ⊢
      have agrees := allows.agrees_of_not_clean fun clean => Bool.noConfusion clean.1
      have read := first used other split (.of_agrees agrees)
      simp only [Reply.parts, Prod.mk.injEq] at read
      obtain ⟨result, recorded, stop⟩ := read
      rw [came] at result
      simp only [Reply.parts, Reply.andThen, result, recorded, stop]
  | ok value =>
      have goesOn : ∀ {start : Cursor}, (production start).result = .ok value →
          ((production start).andThen fun stop _ value => following value stop).parts =
            ((following value (production start).stop).result,
              (production start).recorded ++ (following value (production start).stop).recorded,
              (following value (production start).stop).stop) := by
        intro start succeeds
        simp only [Reply.parts, Reply.andThen, succeeds]
      have here := goesOn came
      simp only [Reply.parts, Prod.mk.injEq] at here
      obtain ⟨result, recorded, stop⟩ := here
      obtain ⟨before, whole⟩ := (production cursor).forward
      obtain ⟨between, rest⟩ := (following value (production cursor).stop).forward
      have same : used = before ++ between := by
        rw [stop] at split
        refine List.append_cancel_right (split.symm.trans ?_)
        rw [List.append_assoc, rest, whole]
      have clean : ((production cursor).andThen fun stop _ value => following value stop).Clean →
          (production cursor).Clean ∧ (following value (production cursor).stop).Clean := by
        rintro ⟨succeeds, nothing⟩
        rw [result] at succeeds
        rw [recorded] at nothing
        obtain ⟨one, two⟩ := List.append_eq_nil_iff.mp nothing
        exact ⟨⟨by rw [came]; rfl, one⟩, succeeds, two⟩
      rw [Reply.Allows, stop] at allows
      have second := further _ (production cursor).forward value rfl came between other rest.symm
        ⟨allows.1, allows.2.imp_right fun ends => ⟨(clean ends.1).2, ends.2⟩⟩
      have firstAllows : (production cursor).Allows (between ++ other) := by
        rw [Reply.Allows, ← rest]
        refine ⟨Cursor.current_append between allows.1, ?_⟩
        by_cases further : between = []
        · subst further
          exact allows.2.imp_right fun ends => ⟨(clean ends.1).1, ends.2⟩
        · exact .inl (Cursor.peek_append further allows.1)
      have read := first before (between ++ other) whole.symm firstAllows
      rw [same, List.append_assoc]
      simp only [Reply.parts, Prod.mk.injEq] at read second
      obtain ⟨readResult, readRecorded, readStop⟩ := read
      rw [goesOn (readResult.trans came), readStop, readRecorded, result, recorded]
      simp only [second]

/-- A failure may be recorded and the malformed rest left out. -/
theorem LocalAt.attempt (here : LocalAt production cursor) :
    LocalAt (fun cursor => (production cursor).attempt) cursor := by
  intro used other split allows
  dsimp only at split allows ⊢
  cases came : (production cursor).result with
  | ok value =>
      have same : ∀ {start : Cursor}, (production start).result = .ok value →
          (production start).attempt.parts =
            (.ok (some value), (production start).recorded, (production start).stop) := by
        intro start succeeds
        simp only [Reply.parts, Reply.attempt, succeeds]
      have parts := same came
      simp only [Reply.parts, Prod.mk.injEq] at parts
      rw [Reply.Allows, Reply.Clean] at allows
      rw [parts.1, parts.2.1, parts.2.2] at allows
      rw [parts.2.2] at split
      have read := here used other split
        ⟨allows.1, allows.2.imp_right fun ends => ⟨⟨by rw [came]; rfl, ends.1.2⟩, ends.2⟩⟩
      simp only [Reply.parts, Prod.mk.injEq] at read
      rw [same (read.1.trans came), parts.1, parts.2.1, read.2.1, read.2.2]
  | error cause =>
      have same : ∀ {start : Cursor}, (production start).result = .error cause →
          (production start).attempt.parts =
            (.ok none, (production start).recorded ++ [cause],
              (production start).stop.recover) := by
        intro start fails
        simp only [Reply.parts, Reply.attempt, fails]
      have parts := same came
      simp only [Reply.parts, Prod.mk.injEq] at parts
      have agrees := allows.agrees_of_not_clean fun clean => by
        rw [Reply.Clean, parts.2.1] at clean
        simp at clean
      rw [parts.2.2] at split agrees
      obtain ⟨between, rest⟩ := Cursor.recover_suffix (production cursor).stop
      obtain ⟨before, whole⟩ := (production cursor).forward
      have cut : used = before ++ between := by
        refine List.append_cancel_right (split.symm.trans ?_)
        rw [List.append_assoc, rest, whole]
      have further : (production cursor).stop.Agrees (between ++ other) := by
        have appended := agrees.append between
        rwa [rest] at appended
      have read := here before (between ++ other) whole.symm (.of_agrees further)
      simp only [Reply.parts, Prod.mk.injEq] at read
      have found : Cursor.recover (between ++ other) = other :=
        Cursor.recover_local (rest.symm ▸ rfl) agrees
      rw [cut, List.append_assoc, same (read.1.trans came), parts.1, parts.2.1, read.2.1,
        read.2.2, found]

/-- Going on after a success or, with the malformed rest left out, after a failure. -/
theorem LocalAt.orSkip {following : Option α → Production β} (first : LocalAt production cursor)
    (further : ∀ stop : Cursor, stop <:+ cursor → ∀ kept, LocalAt (following kept) stop) :
    LocalAt (fun cursor => (production cursor).orSkip fun stop _ kept => following kept stop)
      cursor := by
  simp only [Reply.orSkip_eq]
  exact first.attempt.andThen fun stop ahead kept _ _ => further stop ahead kept

end Combinators

/-! ## Steps without recursion -/

theorem localAt_expect {kind : TokenKind} (asked : kind ∉ TokenKind.lastEnds) (cursor : Cursor) :
    LocalAt (expect kind) cursor := by
  refine LocalAt.ite_peek (· = kind) ?_ (fun _ => ?_) (fun _ => ?_)
  · rintro _ ends rfl
    exact asked ends
  · exact (localAt_succeed ()).advance
  · exact localAt_fail_peek (.unexpected kind)

theorem localAt_closeStatement {α : Type} (value : α) (cursor : Cursor) :
    LocalAt (fun cursor => closeStatement cursor value) cursor := by
  refine LocalAt.ite_peek (· = .semicolon) (by decide) (fun _ => ?_) (fun _ => ?_)
  · exact (localAt_succeed value).advance
  · exact localAt_succeed value

/-- Names up to a closing parenthesis. -/
theorem localAt_parameterNames (cursor : Cursor) : LocalAt parameterNames cursor := by
  refine LocalAt.of_current (fun cursor => (expect .identifier cursor).andThen
    fun stop _ _ => if stop.peek = .comma then
        ((parameterNames stop.next).since stop.next_suffix).map (stop.literal :: ·)
      else
        (expect .rightParen stop).map fun _ => [stop.literal]) (fun other _ => ?_) ?_
  · rw [parameterNames]
    rfl
  · refine (localAt_expect (by decide) cursor).andThen fun stop ahead _ _ _ => ?_
    refine LocalAt.of_current (fun start => if start.peek = .comma then
          ((parameterNames start.next).since start.next_suffix).map (stop.literal :: ·)
        else
          (expect .rightParen start).map fun _ => [stop.literal]) (fun other same => ?_) ?_
    · rw [Cursor.literal_of_current same]
    · refine LocalAt.ite_peek (· = .comma) (by decide) (fun more => ?_) (fun _ => ?_)
      · have shorter : stop.next.length < stop.length :=
          Cursor.length_next_lt_of_peek (by rw [more]; decide)
        have := ahead.length_le
        exact (localAt_parameterNames stop.next).advance.map _
      · exact (localAt_expect (by decide) stop).map _
termination_by cursor.length

theorem localAt_parameterList (cursor : Cursor) : LocalAt parameterList cursor := by
  refine LocalAt.ite_peek (· = .rightParen) (by decide) (fun _ => ?_) (fun _ => ?_)
  · exact (localAt_succeed []).advance
  · exact localAt_parameterNames cursor

/-! ## Statements and expressions -/

/-- The grammar's callables as a production: parameters and body, entered on the word before
them. -/
def callableAt : Production (List String × Block) := fun cursor =>
  (expect .leftParen cursor).andThen fun listed _ _ =>
    (parameterList listed).andThen fun headed _ parameters =>
      (expect .leftBrace headed).andThen fun opened _ _ =>
        ((block opened.next).map fun body => (parameters, body)).since opened.next_suffix

/-- What a minus sign makes of the tokens after it: a numeral belongs to the number, and any other
operand is negated. -/
def operandAfterMinus : Production Expression := fun cursor =>
  match cursor.negated? with
  | some value => continuation .unary (.integer value) cursor
  | none => (expression .unary cursor).map (.unary .negate)

theorem operand_minus (literal : String) (rest : Cursor) :
    operand (⟨.minus, literal⟩ :: rest) =
      (operandAfterMinus rest).since (List.suffix_cons _ _) := by
  rw [operand, operandAfterMinus]
  dsimp only
  split <;> simp only [*]

/-- A statement without the semicolon that may close it. -/
def sentence : Production Statement := fun cursor =>
  match cursor.kind with
  | .letWord =>
    (expect .identifier cursor).andThen fun named _ _ =>
      (expect .assign named).andThen fun assigned _ _ =>
        ((expression .lowest assigned.next).map (.bind named.literal)).since assigned.next_suffix
  | .returnWord => ((expression .lowest cursor.next).map .ret).since cursor.next_suffix
  | _ => (expression .lowest cursor).map .evaluate

theorem sentence_of_let {cursor : Cursor} (isLet : cursor.kind = .letWord) :
    sentence cursor = (expect .identifier cursor).andThen fun named _ _ =>
      (expect .assign named).andThen fun assigned _ _ =>
        ((expression .lowest assigned.next).map (.bind named.literal)).since
          assigned.next_suffix := by
  rw [sentence]
  simp only [isLet]

theorem sentence_of_return {cursor : Cursor} (isReturn : cursor.kind = .returnWord) :
    sentence cursor = ((expression .lowest cursor.next).map .ret).since cursor.next_suffix := by
  rw [sentence]
  simp only [isReturn]

theorem sentence_of_other {cursor : Cursor} (notLet : cursor.kind ≠ .letWord)
    (notReturn : cursor.kind ≠ .returnWord) :
    sentence cursor = (expression .lowest cursor).map .evaluate := by
  rw [sentence]
  split
  · exact absurd ‹_› notLet
  · exact absurd ‹_› notReturn
  · rfl

theorem statement_eq (cursor : Cursor) :
    statement cursor =
      (sentence cursor).andThen fun stop _ value => closeStatement stop value := by
  rw [statement]
  split
  · next isLet =>
    rw [sentence_of_let isLet, Reply.andThen_assoc]
    congr 1
    funext named ahead _
    rw [Reply.andThen_assoc]
    congr 1
    funext assigned ahead' _
    exact (Reply.since_map_andThen _ _ _ _).symm
  · next isReturn =>
    rw [sentence_of_return isReturn]
    exact (Reply.since_map_andThen _ _ _ _).symm
  · next notLet notReturn =>
    rw [sentence_of_other notLet notReturn]
    exact (Reply.map_andThen _ _ _).symm

/-- A semicolon is taken in or not by the front of the cursor before it. -/
theorem LocalAt.statement {cursor : Cursor} (here : LocalAt sentence cursor) :
    LocalAt statement cursor :=
  .of_current _ (fun other _ => statement_eq other)
    (here.andThen fun stop _ value _ _ => localAt_closeStatement value stop)

mutual
theorem localAt_sentence (cursor : Cursor) : LocalAt sentence cursor := by
  by_cases isLet : cursor.kind = .letWord
  · refine LocalAt.of_current (fun cursor => (expect .identifier cursor).andThen
      fun named _ _ => (expect .assign named).andThen fun assigned _ _ =>
        ((expression .lowest assigned.next).map (Statement.bind named.literal)).since
          assigned.next_suffix) ?_ ?_
    · exact fun other same => sentence_of_let (Cursor.kind_of_current same ▸ isLet)
    · refine (localAt_expect (by decide) cursor).andThen fun named ahead _ _ _ => ?_
      refine LocalAt.of_current (fun start => (expect .assign start).andThen
        fun assigned _ _ => ((expression .lowest assigned.next).map
          (Statement.bind named.literal)).since assigned.next_suffix) ?_ ?_
      · intro other same
        rw [Cursor.literal_of_current same]
      · exact (localAt_expect (by decide) named).andThen fun assigned ahead' _ _ _ =>
          ((localAt_expression .lowest assigned.next).map _).advance
  · by_cases isReturn : cursor.kind = .returnWord
    · exact LocalAt.of_current _
        (fun other same => sentence_of_return (Cursor.kind_of_current same ▸ isReturn))
        ((localAt_expression .lowest cursor.next).map Statement.ret).advance
    · refine LocalAt.of_current _ (fun other same => ?_)
        ((localAt_expression .lowest cursor).map Statement.evaluate)
      rw [Cursor.kind_of_current same] at isLet isReturn
      exact sentence_of_other isLet isReturn
termination_by 8 * cursor.length + 5
decreasing_by
  all_goals grind only [→ List.IsSuffix.length_le, Cursor.length_next]

theorem localAt_expression (weaker : Strength) (cursor : Cursor) :
    LocalAt (expression weaker) cursor := by
  refine LocalAt.of_current _ (fun other _ => expression.eq_1 weaker other) ?_
  exact (localAt_operand cursor).andThen fun stop ahead left _ _ =>
    localAt_continuation weaker left stop
termination_by 8 * cursor.length + 4
decreasing_by
  all_goals grind only [→ List.IsSuffix.length_le]

theorem localAt_operand (cursor : Cursor) : LocalAt operand cursor := by
  cases cursor with
  | nil =>
      refine LocalAt.of_current (fun cursor => .fail cursor (.noOperand .endOfInput))
        ?_ (localAt_fail _)
      intro other same
      rw [List.head?_eq_none_iff.mp same.symm, operand]
  | cons token rest =>
      obtain ⟨kind, literal⟩ := token
      have parenthesized : LocalAt (fun start => (expression .lowest start).andThen
          fun stop _ inner => (expect .rightParen stop).map fun _ => inner) rest :=
        (localAt_expression .lowest rest).andThen fun stop _ inner _ _ =>
          (localAt_expect (by decide) stop).map _
      cases kind with
      | identifier =>
          exact .of_cons _ (fun _ => by rw [operand]) (localAt_succeed (.identifier literal))
      | integer =>
          cases numeral : Decimal.int64? literal.toList with
          | none =>
              exact .of_cons _ (fun _ => by rw [operand]; simp only [numeral])
                (localAt_fail (.integerOutOfRange literal))
          | some value =>
              exact .of_cons _ (fun _ => by rw [operand]; simp only [numeral])
                (localAt_succeed (.integer value))
      | string => exact .of_cons _ (fun _ => by rw [operand]) (localAt_succeed (.string literal))
      | trueWord => exact .of_cons _ (fun _ => by rw [operand]) (localAt_succeed (.boolean true))
      | falseWord => exact .of_cons _ (fun _ => by rw [operand]) (localAt_succeed (.boolean false))
      | bang =>
          exact .of_cons_advance _ (fun _ => by rw [operand])
            ((localAt_expression .unary rest).map (.unary .not))
      | minus =>
          refine .of_cons_advance _ (fun _ => operand_minus _ _) ?_
          cases negated : Cursor.negated? rest with
          | some value =>
              refine LocalAt.of_current _ (fun other same => ?_)
                (localAt_continuation .unary (.integer value) rest)
              rw [Cursor.negated?_of_current same] at negated
              rw [operandAfterMinus, negated]
          | none =>
              refine LocalAt.of_current _ (fun other same => ?_)
                ((localAt_expression .unary rest).map (.unary .negate))
              rw [Cursor.negated?_of_current same] at negated
              rw [operandAfterMinus, negated]
      | leftParen => exact .of_cons_advance _ (fun _ => by rw [operand]) parenthesized
      | ifWord => exact .of_cons_advance _ (fun _ => by rw [operand]) (localAt_conditional rest)
      | functionWord =>
          exact .of_cons (fun cursor => (callableAt cursor).map fun parts =>
              .function parts.1 parts.2) (fun _ => by rw [operand, callable]; rfl)
            ((localAt_callableAt _ _).map _)
      | macroWord =>
          exact .of_cons (fun cursor => (callableAt cursor).map fun parts =>
              .macroLiteral parts.1 parts.2) (fun _ => by rw [operand, callable]; rfl)
            ((localAt_callableAt _ _).map _)
      | leftBracket =>
          exact .of_cons_advance _ (fun _ => by rw [operand])
            ((localAt_expressionList (by decide) rest).map .array)
      | leftBrace =>
          exact .of_cons_advance _ (fun _ => by rw [operand]) ((localAt_pairList rest).map .hash)
      | _ => exact .of_cons _ (fun _ => by rw [operand]) (localAt_fail _)
termination_by 8 * cursor.length + 3
decreasing_by
  all_goals grind only [List.length_cons]

theorem localAt_conditional (cursor : Cursor) : LocalAt conditional cursor := by
  refine LocalAt.of_current _ (fun other _ => conditional.eq_1 other) ?_
  refine (localAt_expression .lowest cursor).andThen fun tested ahead condition _ _ => ?_
  refine (localAt_expect (by decide) tested).andThen fun opened ahead' _ _ _ => ?_
  refine (localAt_block opened.next).advance.andThen fun closed ahead'' consequence _ _ => ?_
  refine LocalAt.ite_peek (· = .elseWord) (by decide) (fun _ => ?_) fun _ => ?_
  · have otherwise : LocalAt (fun start => (expect .leftBrace start).andThen
        fun reopened _ _ => ((block reopened.next).map fun alternative =>
          Expression.conditional condition consequence (some alternative)).since
            reopened.next_suffix) closed.next :=
      (localAt_expect (by decide) closed.next).andThen fun reopened ahead''' _ _ _ =>
        ((localAt_block reopened.next).map _).advance
    exact otherwise.advance
  · exact localAt_succeed _
termination_by 8 * cursor.length + 7
decreasing_by
  all_goals grind only [→ List.IsSuffix.length_le, Cursor.length_next]

theorem localAt_callableAt (token : Token) (rest : Cursor) :
    LocalAt callableAt (token :: rest) := by
  refine (localAt_expect (by decide) _).andThen fun listed ahead _ _ _ => ?_
  refine (localAt_parameterList listed).andThen fun headed ahead' parameters _ _ => ?_
  refine (localAt_expect (by decide) headed).andThen fun opened ahead'' _ _ _ => ?_
  exact ((localAt_block opened.next).map _).advance
termination_by 8 * (token :: rest).length
decreasing_by
  all_goals grind only [→ List.IsSuffix.length_le, Cursor.length_next, List.length_cons]

theorem localAt_continuation (weaker : Strength) (left : Expression) (cursor : Cursor) :
    LocalAt (continuation weaker left) cursor := by
  refine LocalAt.of_current (fun cursor =>
    if weaker < Strength.ofKind cursor.peek then
      ((extension left cursor.next).andThen fun stop _ extended =>
        continuation weaker extended stop).since cursor.next_suffix
    else
      .succeed cursor left) (fun other _ => ?_) ?_
  · rw [continuation]
    simp only [Cursor.continues_iff]
    rfl
  · refine LocalAt.ite_peek (fun kind => weaker < Strength.ofKind kind) ?_
      (fun stronger => ?_) fun _ => localAt_succeed left
    · intro kind ends
      have weakest : Strength.ofKind kind = .lowest := by
        revert ends
        cases kind <;> decide
      rw [weakest]
      exact weaker.not_lt_lowest
    · have shorter := Cursor.length_next_lt_of_strength stronger
      have further : LocalAt (fun start => (extension left start).andThen
          fun stop _ extended => continuation weaker extended stop) cursor.next :=
        (localAt_extension left cursor.next).andThen fun stop ahead extended _ _ =>
          localAt_continuation weaker extended stop
      exact further.advance
termination_by 8 * cursor.length + 2
decreasing_by
  all_goals grind only [→ List.IsSuffix.length_le]

theorem localAt_extension (left : Expression) (cursor : Cursor) :
    LocalAt (extension left) cursor := by
  cases cursor with
  | nil =>
      refine LocalAt.of_current
        (fun cursor => .fail cursor (.noContinuation .endOfInput)) ?_ (localAt_fail _)
      intro other same
      rw [List.head?_eq_none_iff.mp same.symm, extension]
  | cons token rest =>
      obtain ⟨kind, literal⟩ := token
      have binary : ∀ operator : BinaryOperator, LocalAt (fun start =>
          (expression (Strength.ofKind operator.kind) start).map (Expression.binary operator left)) rest :=
        fun operator => (localAt_expression _ rest).map _
      cases kind with
      | leftParen =>
          exact .of_cons_advance _ (fun _ => by rw [extension])
            ((localAt_expressionList (by decide) rest).map (.call left))
      | leftBracket =>
          refine .of_cons_advance (fun start => (expression .lowest start).andThen
            fun stop _ position => (expect .rightBracket stop).map fun _ => .index left position)
            (fun _ => by rw [extension]) ?_
          exact (localAt_expression .lowest rest).andThen fun stop _ position _ _ =>
            (localAt_expect (by decide) stop).map _
      | plus => exact .of_cons_advance _ (fun _ => by rw [extension]; rfl) (binary .add)
      | minus => exact .of_cons_advance _ (fun _ => by rw [extension]; rfl) (binary .subtract)
      | asterisk => exact .of_cons_advance _ (fun _ => by rw [extension]; rfl) (binary .multiply)
      | slash => exact .of_cons_advance _ (fun _ => by rw [extension]; rfl) (binary .divide)
      | less => exact .of_cons_advance _ (fun _ => by rw [extension]; rfl) (binary .less)
      | greater => exact .of_cons_advance _ (fun _ => by rw [extension]; rfl) (binary .greater)
      | equal => exact .of_cons_advance _ (fun _ => by rw [extension]; rfl) (binary .equal)
      | notEqual => exact .of_cons_advance _ (fun _ => by rw [extension]; rfl) (binary .notEqual)
      | _ => exact .of_cons _ (fun _ => by rw [extension]; rfl) (localAt_fail _)
termination_by 8 * cursor.length + 2
decreasing_by
  all_goals grind only [List.length_cons]

theorem localAt_expressionList {close : TokenKind} (asked : close ∉ TokenKind.lastEnds)
    (cursor : Cursor) : LocalAt (expressionList close) cursor := by
  by_cases closed : cursor.kind = close
  · refine LocalAt.of_current _ (fun other same => ?_) (localAt_succeed [])
    rw [expressionList, if_pos (Cursor.kind_of_current same ▸ closed)]
  · refine LocalAt.of_current _ (fun other same => ?_) (localAt_expressionItems asked cursor)
    rw [expressionList, if_neg (Cursor.kind_of_current same ▸ closed)]
termination_by 8 * cursor.length + 6

theorem localAt_expressionItems {close : TokenKind} (asked : close ∉ TokenKind.lastEnds)
    (cursor : Cursor) : LocalAt (expressionItems close) cursor := by
  refine LocalAt.of_current _ (fun other _ => expressionItems.eq_1 close other) ?_
  refine (localAt_expression .lowest cursor).andThen fun stop ahead item _ _ => ?_
  refine LocalAt.ite_peek (· = .comma) (by decide) (fun more => ?_) fun _ => ?_
  · have shorter := @Cursor.length_next_lt_of_peek stop (by rw [more]; decide)
    exact ((localAt_expressionItems asked stop.next.next).map _).advance.advance
  · exact (localAt_expect asked stop).map _
termination_by 8 * cursor.length + 5
decreasing_by
  all_goals grind only [→ List.IsSuffix.length_le, Cursor.length_next]

theorem localAt_pairList (cursor : Cursor) : LocalAt pairList cursor := by
  by_cases closed : cursor.kind = .rightBrace
  · refine LocalAt.of_current _ (fun other same => ?_) (localAt_succeed [])
    rw [pairList, if_pos (Cursor.kind_of_current same ▸ closed)]
  · refine LocalAt.of_current (fun cursor => (expression .lowest cursor).andThen
      fun keyed _ key => (expect .colon keyed).andThen fun colon _ _ =>
        ((expression .lowest colon.next).since colon.next_suffix).andThen fun stop _ value =>
          if stop.peek = .rightBrace then
            (Reply.succeed stop.next [(key, value)]).since stop.next_suffix
          else if stop.peek = .comma then
            ((pairList stop.next.next).map ((key, value) :: ·)).since
              (stop.next.next_suffix.trans stop.next_suffix)
          else
            .fail stop (.unexpected .comma stop.peek)) (fun other same => ?_) ?_
    · rw [pairList, if_neg (Cursor.kind_of_current same ▸ closed)]
      rfl
    refine (localAt_expression .lowest cursor).andThen fun keyed ahead key _ _ => ?_
    refine (localAt_expect (by decide) keyed).andThen fun colon ahead' _ _ _ => ?_
    refine (localAt_expression .lowest colon.next).advance.andThen fun stop ahead'' value _ _ => ?_
    refine LocalAt.ite_rightBrace (fun _ => localAt_succeed _) (fun _ => ?_) ?_
    · refine LocalAt.ite_peek (· = .comma) (by decide) (fun more => ?_) fun _ => ?_
      · have shorter := @Cursor.length_next_lt_of_peek stop (by rw [more]; decide)
        exact ((localAt_pairList stop.next.next).map _).advance.advance
      · exact localAt_fail_peek (.unexpected .comma)
    · intro ended clean
      rw [ended] at clean
      exact Bool.noConfusion clean.1
termination_by 8 * cursor.length + 5
decreasing_by
  all_goals grind only [→ List.IsSuffix.length_le, Cursor.length_next]

theorem localAt_block (cursor : Cursor) : LocalAt block cursor := by
  by_cases closed : cursor.kind = .rightBrace
  · refine LocalAt.of_current _ (fun other same => ?_) (localAt_succeed [])
    rw [block, if_pos (Cursor.kind_of_current same ▸ closed)]
  by_cases ended : cursor.kind = .endOfInput
  · refine LocalAt.of_current _ (fun other same => ?_)
      (localAt_fail (.unexpected .rightBrace .endOfInput))
    rw [Cursor.kind_of_current same] at closed ended
    rw [block, if_neg closed, dif_pos ended]
  · refine LocalAt.of_current (fun cursor => (statement cursor).orSkip fun stop _ kept =>
      match kept with
      | some first => ((block stop.next).map (first :: ·)).since stop.next_suffix
      | none =>
        if stop.kind = .rightBrace then .succeed stop []
        else (block stop.next).since stop.next_suffix) (fun other same => ?_) ?_
    · rw [Cursor.kind_of_current same] at closed ended
      rw [block]
      exact (if_neg closed).trans (dif_neg ended)
    refine (localAt_sentence cursor).statement.orSkip fun stop ahead kept => ?_
    have shorter := Cursor.length_next_lt ended
    cases kept with
    | some first => exact ((localAt_block stop.next).map (first :: ·)).advance
    | none =>
        by_cases brace : stop.kind = .rightBrace
        · refine LocalAt.of_current _ (fun other same => ?_) (localAt_succeed [])
          rw [if_pos (Cursor.kind_of_current same ▸ brace)]
        · refine LocalAt.of_current _ (fun other same => ?_) (localAt_block stop.next).advance
          rw [if_neg (Cursor.kind_of_current same ▸ brace)]
termination_by 8 * cursor.length + 6
decreasing_by
  all_goals grind only [→ List.IsSuffix.length_le, Cursor.length_next]
end

end MonkeyLang
