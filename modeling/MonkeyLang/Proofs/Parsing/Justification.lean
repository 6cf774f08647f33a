import MonkeyLang.Parsing.Reply
import MonkeyLang.Proofs.Parsing.Outcome

/-!
# Values justified by the tokens used

A production that reads a value has used the tokens between the place where it was
entered and the place where it stopped. `Reply.Justifies` says that the value has a
property together with these tokens and with those after them, and there is one rule
for each combinator of replies: the tokens that a sequence uses are those that its
first part uses and then those that the rest uses.

The digits of integers are taken for granted in the property. The parser would read a
sign inside an integer, but no text gives it one.
-/

set_option autoImplicit false

namespace MonkeyLang

/-! ## Numerals -/

/-- An integer is written in digits. -/
def Token.IsNumeral (token : Token) : Prop :=
  token.kind = .integer → (Decimal.natural? token.literal.toList).isSome

/-- Every integer among the tokens is written in digits. -/
def Numerals (tokens : List Token) : Prop :=
  ∀ token ∈ tokens, token.IsNumeral

theorem numerals_append {before after : List Token} :
    Numerals (before ++ after) ↔ Numerals before ∧ Numerals after :=
  List.forall_mem_append

theorem numerals_cons {token : Token} {rest : List Token} :
    Numerals (token :: rest) ↔ token.IsNumeral ∧ Numerals rest :=
  List.forall_mem_cons

namespace Decimal

variable {text : List Char} {number : Nat} {value : Int64}

/-- Digits are read as the number they stand for, and only if it fits. -/
theorem of_int64?_of_natural? (numeral : natural? text = some number)
    (reads : int64? text = some value) :
    number < 9223372036854775808 ∧ value = Int64.ofNat number := by
  rw [int64?, integer?_of_natural? numeral, Option.bind_some] at reads
  split at reads
  · next fits =>
    obtain ⟨-, most⟩ := fits
    refine ⟨by omega, ?_⟩
    rw [← Option.some.inj reads, Int64.ofInt_eq_ofNat]
  · cases reads

/-- Digits after a minus sign are read as the negated number. -/
theorem of_int64?_minus (numeral : natural? text = some number)
    (reads : int64? ('-' :: text) = some value) :
    number ≤ 9223372036854775808 ∧ value = Int64.ofInt (-number) := by
  rw [int64?, integer?, numeral] at reads
  change (if Fits _ then _ else _) = _ at reads
  split at reads
  · next fits =>
    have least : -9223372036854775808 ≤ -(number : Int) := fits.1
    exact ⟨by omega, (Option.some.inj reads).symm⟩
  · cases reads

end Decimal

/-! ## Values justified by the tokens used -/

theorem Cursor.eq_cons_of_kind {cursor : Cursor} {kind : TokenKind} (same : cursor.kind = kind)
    (more : kind ≠ .endOfInput) : ∃ a rest, cursor = ⟨kind, a⟩ :: rest := by
  cases cursor with
  | nil => exact absurd same.symm more
  | cons token rest =>
      obtain ⟨first, a⟩ := token
      have same : first = kind := same
      exact ⟨a, rest, by rw [same]⟩

/-- The same with the tokens that come next. -/
theorem Cursor.eq_cons_next_of_kind {cursor : Cursor} {kind : TokenKind}
    (same : cursor.kind = kind) (more : kind ≠ .endOfInput) :
    ∃ a, cursor = ⟨kind, a⟩ :: cursor.next := by
  obtain ⟨a, rest, rfl⟩ := Cursor.eq_cons_of_kind same more
  exact ⟨a, rfl⟩

namespace Reply

variable {α β : Type} {cursor : Cursor} {start : Cursor}
variable {property : α → List Token → Cursor → Prop}

/-- Where the production reads a value, it has used the first of the tokens that it started from,
and the value has the property with the tokens used and the tokens after them. -/
def Justifies (reply : Reply cursor α) (start : Cursor)
    (property : α → List Token → Cursor → Prop) : Prop :=
  ∀ value after, reply.Reads value after →
    ∃ used, start = used ++ after ∧ (Numerals used → property value used after)

theorem justifies_fail (cause : Diagnostic) :
    (fail cursor cause : Reply cursor α).Justifies start property := by
  rintro value after ⟨⟩

/-- Nothing more is used. -/
theorem justifies_succeed {value : α} (here : property value [] cursor.next) :
    (succeed cursor value).Justifies cursor.next property := by
  rintro _ _ ⟨⟩
  exact ⟨[], rfl, fun _ => here⟩

/-- The next token is used. -/
theorem justifies_next {value : α} {kind : TokenKind} (peek : cursor.peek = kind)
    (more : kind ≠ .endOfInput)
    (here : ∀ a, property value [⟨kind, a⟩] cursor.next.next) :
    ((succeed cursor.next value).since cursor.next_suffix).Justifies cursor.next property := by
  obtain ⟨a, rest, next⟩ := Cursor.eq_cons_of_kind peek more
  rintro _ _ ⟨⟩
  refine ⟨[⟨kind, a⟩], ?_, fun _ => here a⟩
  change cursor.next = [⟨kind, a⟩] ++ cursor.next.next
  rw [next]
  rfl

/-- The current token is used. -/
theorem justifies_token {value : α} {token : Token} {rest : Cursor}
    (here : token.IsNumeral → property value [token] rest) :
    (succeed (token :: rest) value).Justifies (token :: rest) property := by
  rintro _ _ ⟨⟩
  exact ⟨[token], rfl, fun numerals => here (numerals token List.mem_cons_self)⟩

theorem Justifies.since {further : Cursor} {reply : Reply further α}
    (justifies : reply.Justifies start property) (ahead : further <:+ cursor) :
    (reply.since ahead).Justifies start property :=
  justifies

/-- One more token was used before. -/
theorem Justifies.cons {reply : Reply cursor α} {token : Token} {rest : Cursor}
    (justifies : reply.Justifies rest fun value used after =>
      token.IsNumeral → property value (token :: used) after) :
    reply.Justifies (token :: rest) property := by
  intro value after reads
  obtain ⟨used, rfl, holds⟩ := justifies value after reads
  refine ⟨token :: used, rfl, fun numerals => ?_⟩
  rw [numerals_cons] at numerals
  exact holds numerals.2 numerals.1

/-- The same where the tokens come next. -/
theorem Justifies.cons_of_eq {reply : Reply cursor α} {token : Token} {rest : Cursor}
    (same : start = token :: rest)
    (justifies : reply.Justifies rest fun value used after => property value (token :: used) after) :
    reply.Justifies start property := by
  subst same
  refine Justifies.cons fun value after reads => ?_
  obtain ⟨used, same, holds⟩ := justifies value after reads
  exact ⟨used, same, fun numerals _ => holds numerals⟩

theorem of_reads_map {reply : Reply cursor α} {f : α → β} {value : β} {after : Cursor}
    (reads : (reply.map f).Reads value after) :
    ∃ inner, reply.Reads inner after ∧ f inner = value := by
  obtain ⟨result, recorded, stop, forward⟩ := reply
  cases result with
  | error cause => cases reads
  | ok inner =>
      cases reads
      exact ⟨inner, rfl, rfl⟩

theorem Justifies.map {f : α → β} {further : β → List Token → Cursor → Prop}
    {reply : Reply cursor α} (justifies : reply.Justifies start property)
    (holds : ∀ value used after, property value used after → further (f value) used after) :
    (reply.map f).Justifies start further := by
  intro _ after mapped
  obtain ⟨value, reads, rfl⟩ := of_reads_map mapped
  obtain ⟨used, same, here⟩ := justifies value after reads
  exact ⟨used, same, fun numerals => holds value used after (here numerals)⟩

theorem of_reads_andThen {reply : Reply cursor α}
    {following : (stop : Cursor) → stop <:+ cursor → α → Reply stop β} {value : β} {after : Cursor}
    (reads : (reply.andThen following).Reads value after) :
    ∃ stop ahead first, reply.Reads first stop.next ∧
      (following stop ahead first).Reads value after := by
  obtain ⟨result, recorded, stop, forward⟩ := reply
  cases result with
  | error cause => cases reads
  | ok first =>
      simp only [Reads, outcome, andThen, Prod.mk.injEq, List.append_eq_nil_iff] at reads
      obtain ⟨came, ⟨rfl, nothing⟩, rfl⟩ := reads
      refine ⟨stop, forward, first, rfl, ?_⟩
      rw [Reads, outcome, came, nothing]

/-- What goes on uses the tokens after those already used. -/
theorem Justifies.andThen {further : β → List Token → Cursor → Prop} {reply : Reply cursor α}
    {following : (stop : Cursor) → stop <:+ cursor → α → Reply stop β}
    (justifies : reply.Justifies start property)
    (goesOn : ∀ stop ahead value, (following stop ahead value).Justifies stop.next
      fun result more after => ∀ used, property value used stop.next →
        further result (used ++ more) after) :
    (reply.andThen following).Justifies start further := by
  intro result after reads
  obtain ⟨stop, ahead, value, reads, reads'⟩ := of_reads_andThen reads
  obtain ⟨used, rfl, here⟩ := justifies value stop.next reads
  obtain ⟨more, same, there⟩ := goesOn stop ahead value result after reads'
  refine ⟨used ++ more, by rw [same, List.append_assoc], fun numerals => ?_⟩
  rw [numerals_append] at numerals
  exact there numerals.2 used (here numerals.1)

/-- Only the statements of a body without a malformed one are read. -/
theorem Justifies.orSkip {further : β → List Token → Cursor → Prop} {reply : Reply cursor α}
    {following : (stop : Cursor) → stop <:+ cursor → Option α → Reply stop β}
    (justifies : reply.Justifies start property)
    (goesOn : ∀ stop ahead value, (following stop ahead (some value)).Justifies stop.next
      fun result more after => ∀ used, property value used stop.next →
        further result (used ++ more) after) :
    (reply.orSkip following).Justifies start further := by
  have onward := justifies.andThen goesOn
  intro result after reads
  refine onward result after ?_
  obtain ⟨came, recorded, stop, forward⟩ := reply
  cases came with
  | ok value => exact reads
  | error cause =>
      simp [Reads, outcome, Reply.orSkip] at reads

end Reply

open Reply

/-- A required token is used and is the current one for what follows. -/
theorem justifies_expect_andThen {β : Type} {kind : TokenKind} {cursor : Cursor}
    {following : (stop : Cursor) → stop <:+ cursor → Unit → Reply stop β}
    {property : β → List Token → Cursor → Prop} (more : kind ≠ .endOfInput)
    (goesOn : ∀ a rest ahead, cursor.next = ⟨kind, a⟩ :: rest →
      (following (⟨kind, a⟩ :: rest) ahead ()).Justifies rest
        fun result used after => property result (⟨kind, a⟩ :: used) after) :
    ((expect kind cursor).andThen following).Justifies cursor.next property := by
  intro result after reads
  rw [expect] at reads
  split at reads
  · next peek =>
    obtain ⟨a, rest, next⟩ := Cursor.eq_cons_of_kind peek more
    have ahead : (⟨kind, a⟩ :: rest : Cursor) <:+ cursor := next ▸ cursor.next_suffix
    have reads : (following (⟨kind, a⟩ :: rest) ahead ()).Reads result after := by
      cases cursor with
      | nil => cases next
      | cons token tail =>
          cases next
          exact reads
    rw [next]
    refine Justifies.cons ?_ result after reads
    intro result after reads
    obtain ⟨used, same, holds⟩ := goesOn a rest ahead next result after reads
    exact ⟨used, same, fun numerals _ => holds numerals⟩
  · cases reads

theorem justifies_expect {kind : TokenKind} (more : kind ≠ .endOfInput) (cursor : Cursor) :
    (expect kind cursor).Justifies cursor.next fun _ used _ => ∃ a, used = [⟨kind, a⟩] := by
  rw [expect]
  split
  · next peek => exact justifies_next peek more fun a => ⟨a, rfl⟩
  · exact justifies_fail _

end MonkeyLang
