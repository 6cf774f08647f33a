import MonkeyLang.Operator
import MonkeyLang.Parsing.Diagnostic

/-!
# Cursors and replies

The place that a parser has reached is the list of the tokens not yet left
behind.  Its first token is the current one and the next is the lookahead; when
no token is left, the end of the input is the current one.

A production is entered at a cursor and gives a reply: a result or a
diagnostic, the diagnostics that were recorded on the way inside blocks, and the
cursor at which it stopped.  A production that succeeds stops on the last token
that belongs to it.  That the parser only moves forward is part of the type of a
reply: where it stopped is a suffix of where it was entered.
-/

set_option autoImplicit false

namespace MonkeyLang

/-! ## Cursors -/

/-- The tokens from the current one on. -/
abbrev Cursor := List Token

namespace Cursor

/-- The kind of the current token. -/
def kind : Cursor → TokenKind
  | [] => .endOfInput
  | token :: _ => token.kind

/-- The literal of the current token. -/
def literal : Cursor → String
  | [] => ""
  | token :: _ => token.literal

/-- The cursor one token further on; at the end of the input it stays. -/
def next (cursor : Cursor) : Cursor :=
  cursor.tail

/-- The kind of the token after the current one. -/
def peek (cursor : Cursor) : TokenKind :=
  kind cursor.next

theorem next_suffix (cursor : Cursor) : cursor.next <:+ cursor :=
  List.tail_suffix cursor

/-- Past a token that is not the end of the input, fewer tokens are left. -/
theorem length_next_lt {cursor : Cursor} (more : cursor.kind ≠ .endOfInput) :
    cursor.next.length < cursor.length := by
  cases cursor with
  | nil => exact absurd rfl more
  | cons token rest => simp [next]

/-- Before a token that is not the end of the input, fewer tokens are left after the current
one. -/
theorem length_next_lt_of_peek {cursor : Cursor} (more : cursor.peek ≠ .endOfInput) :
    cursor.next.length < cursor.length := by
  cases cursor with
  | nil => exact absurd rfl more
  | cons token rest => simp [next]

/-- A token that continues an expression is not the end of the input. -/
theorem length_next_lt_of_strength {cursor : Cursor} {weaker : Strength}
    (stronger : weaker < Strength.ofKind cursor.peek) : cursor.next.length < cursor.length := by
  refine length_next_lt_of_peek fun ended => Strength.not_lt_lowest weaker ?_
  rwa [ended] at stronger

theorem length_next (cursor : Cursor) : cursor.next.length = cursor.length - 1 :=
  List.length_tail

end Cursor

/-! ## Replies -/

/-- What a production gives when it is entered at a cursor. -/
structure Reply (cursor : Cursor) (α : Type) where
  /-- The result, or why there is none. -/
  result : Except Diagnostic α
  /-- What was recorded inside blocks. -/
  recorded : List Diagnostic
  /-- Where the production stopped. -/
  stop : Cursor
  /-- The parser only moves forward. -/
  forward : stop <:+ cursor

namespace Reply

variable {α β : Type} {cursor : Cursor}

/-- Success on the current token. -/
def succeed (cursor : Cursor) (value : α) : Reply cursor α :=
  ⟨.ok value, [], cursor, List.suffix_refl cursor⟩

/-- Failure at the current token. -/
def fail (cursor : Cursor) (cause : Diagnostic) : Reply cursor α :=
  ⟨.error cause, [], cursor, List.suffix_refl cursor⟩

/-- A reply from further on, as a reply from here. -/
def since {start : Cursor} (ahead : start <:+ cursor) (reply : Reply start α) : Reply cursor α :=
  ⟨reply.result, reply.recorded, reply.stop, reply.forward.trans ahead⟩

/-- Goes on after a success from where it stopped. -/
def andThen (reply : Reply cursor α)
    (continuation : (stop : Cursor) → stop <:+ cursor → α → Reply stop β) : Reply cursor β :=
  match reply.result with
  | .ok value =>
    let following := continuation reply.stop reply.forward value
    ⟨following.result, reply.recorded ++ following.recorded, following.stop,
      following.forward.trans reply.forward⟩
  | .error cause => ⟨.error cause, reply.recorded, reply.stop, reply.forward⟩

/-- Applies a function to the result. -/
def map (f : α → β) (reply : Reply cursor α) : Reply cursor β :=
  ⟨reply.result.map f, reply.recorded, reply.stop, reply.forward⟩

end Reply

/-! ## Steps without recursion -/

/-- Moves to the next token if it is of the kind required. -/
def expect (kind : TokenKind) (cursor : Cursor) : Reply cursor Unit :=
  if cursor.peek = kind then
    (Reply.succeed cursor.next ()).since cursor.next_suffix
  else
    Reply.fail cursor (.unexpected kind cursor.peek)

/-- Success that takes a following semicolon in. -/
def closeStatement {α : Type} (cursor : Cursor) (value : α) : Reply cursor α :=
  if cursor.peek = .semicolon then
    (Reply.succeed cursor.next value).since cursor.next_suffix
  else
    Reply.succeed cursor value

/-! ## Recovery -/

/-- Whether the parser stands at the end of a malformed statement: on a semicolon, a closing
brace or the end of the input, or one token before a closing brace or the end. -/
def Cursor.atBoundary (cursor : Cursor) : Bool :=
  (cursor.kind == .semicolon || cursor.kind == .rightBrace || cursor.kind == .endOfInput) ||
    (cursor.peek == .rightBrace || cursor.peek == .endOfInput)

/-- The first boundary from the current token on. -/
def Cursor.recover : Cursor → Cursor
  | [] => []
  | token :: rest =>
    if Cursor.atBoundary (token :: rest) then token :: rest else Cursor.recover rest

theorem Cursor.recover_suffix (cursor : Cursor) : cursor.recover <:+ cursor := by
  induction cursor with
  | nil => exact List.suffix_refl []
  | cons token rest ih =>
    rw [Cursor.recover]
    split
    · exact List.suffix_refl _
    · exact ih.trans (List.suffix_cons token rest)

/-- Goes on after a success with its value, and after a failure without one: the cause is
recorded and the rest of the malformed statement left out. -/
def Reply.orSkip {α β : Type} {cursor : Cursor} (reply : Reply cursor α)
    (continuation : (stop : Cursor) → stop <:+ cursor → Option α → Reply stop β) :
    Reply cursor β :=
  match reply.result with
  | .ok value =>
    let following := continuation reply.stop reply.forward (some value)
    ⟨following.result, reply.recorded ++ following.recorded, following.stop,
      following.forward.trans reply.forward⟩
  | .error cause =>
    let boundary := reply.stop.recover
    let following := continuation boundary (reply.stop.recover_suffix.trans reply.forward) none
    ⟨following.result, reply.recorded ++ cause :: following.recorded, following.stop,
      following.forward.trans (reply.stop.recover_suffix.trans reply.forward)⟩

end MonkeyLang
