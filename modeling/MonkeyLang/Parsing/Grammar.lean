import MonkeyLang.Decimal
import MonkeyLang.Parsing.Reply
import MonkeyLang.Syntax

/-!
# The grammar

Every production is entered on its first token and, when it succeeds, stops on
its last one; where an opening delimiter has been seen already, the production
is entered on the token after it.  An expression is an operand with the
continuations after it that are stronger than the operator before it: an
operator with its right operand, a call, or an index.  Equal strength ends an
operand, so operators of one strength group to the left.

A malformed statement inside a block is recorded and left out, and the block
goes on after it; every other failure ends the production it occurs in.

The productions call each other on fewer tokens, or on the same tokens in the
order block, list, statement, expression, operand, continuation.
-/

set_option autoImplicit false

namespace MonkeyLang

/-! ## Parameters -/

/-- Names separated by commas up to a closing parenthesis, entered before the first name. -/
def parameterNames (cursor : Cursor) : Reply cursor (List String) :=
  (expect .identifier cursor).andThen fun stop _ahead _ =>
    if _more : stop.peek = .comma then
      ((parameterNames stop.next).since stop.next_suffix).map (stop.literal :: ·)
    else
      (expect .rightParen stop).map fun _ => [stop.literal]
termination_by cursor.length
decreasing_by
  have shorter : stop.next.length < stop.length :=
    Cursor.length_next_lt_of_peek (by rw [_more]; decide)
  have := _ahead.length_le
  omega

/-- A list of names, entered on its opening parenthesis. -/
def parameterList (cursor : Cursor) : Reply cursor (List String) :=
  if cursor.peek = .rightParen then
    (Reply.succeed cursor.next []).since cursor.next_suffix
  else
    parameterNames cursor

/-! ## Statements and expressions -/

/-- Whether the expression before the cursor goes on with the token after it. -/
def Cursor.Continues (weaker : Strength) (cursor : Cursor) : Prop :=
  cursor.peek ≠ .semicolon ∧ weaker < Strength.ofKind cursor.peek

instance (weaker : Strength) (cursor : Cursor) : Decidable (cursor.Continues weaker) :=
  inferInstanceAs (Decidable (_ ∧ _))

/-- The integer that the current token is when a minus sign stands directly before it. -/
def Cursor.negated? (cursor : Cursor) : Option Int64 :=
  if cursor.kind = .integer then Decimal.int64? ('-' :: cursor.literal.toList) else none

mutual
/-- A statement, told by its first word. -/
def statement (cursor : Cursor) : Reply cursor Statement :=
  match cursor.kind with
  | .letWord =>
    (expect .identifier cursor).andThen fun named _ _ =>
      (expect .assign named).andThen fun assigned _ _ =>
        ((expression .lowest assigned.next).since assigned.next_suffix).andThen
          fun stop _ value => closeStatement stop (.bind named.literal value)
  | .returnWord =>
    ((expression .lowest cursor.next).since cursor.next_suffix).andThen
      fun stop _ value => closeStatement stop (.ret value)
  | _ =>
    (expression .lowest cursor).andThen fun stop _ value => closeStatement stop (.evaluate value)
termination_by 8 * cursor.length + 5
decreasing_by
  all_goals grind only [→ List.IsSuffix.length_le, Cursor.length_next]

/-- An operand and the continuations that are stronger than the operator before it. -/
def expression (weaker : Strength) (cursor : Cursor) : Reply cursor Expression :=
  (operand cursor).andThen fun stop _ left => continuation weaker left stop
termination_by 8 * cursor.length + 4
decreasing_by
  all_goals grind only [→ List.IsSuffix.length_le]

/-- What an expression starts with, told by its first token. -/
def operand (cursor : Cursor) : Reply cursor Expression :=
  match cursor with
  | [] => .fail [] (.noOperand .endOfInput)
  | token :: rest =>
    match token.kind with
    | .identifier => .succeed (token :: rest) (.identifier token.literal)
    | .integer =>
      match Decimal.int64? token.literal.toList with
      | some value => .succeed (token :: rest) (.integer value)
      | none => .fail (token :: rest) (.integerOutOfRange token.literal)
    | .string => .succeed (token :: rest) (.string token.literal)
    | .trueWord => .succeed (token :: rest) (.boolean true)
    | .falseWord => .succeed (token :: rest) (.boolean false)
    | .bang => ((expression .unary rest).map (.unary .not)).since (List.suffix_cons token rest)
    | .minus =>
      match Cursor.negated? rest with
      | some value =>
        (continuation .unary (.integer value) rest).since (List.suffix_cons token rest)
      | none => ((expression .unary rest).map (.unary .negate)).since (List.suffix_cons token rest)
    | .leftParen =>
      ((expression .lowest rest).andThen fun stop _ inner =>
        (expect .rightParen stop).map fun _ => inner).since (List.suffix_cons token rest)
    | .ifWord => (conditional rest).since (List.suffix_cons token rest)
    | .functionWord => (callable token rest).map fun parts => .function parts.1 parts.2
    | .macroWord => (callable token rest).map fun parts => .macroLiteral parts.1 parts.2
    | .leftBracket =>
      ((expressionList .rightBracket rest).map .array).since (List.suffix_cons token rest)
    | .leftBrace => ((pairList rest).map .hash).since (List.suffix_cons token rest)
    | kind => .fail (token :: rest) (.noOperand kind)
termination_by 8 * cursor.length + 3
decreasing_by
  all_goals grind only [List.length_cons]

/-- A conditional, entered on its condition. -/
def conditional (cursor : Cursor) : Reply cursor Expression :=
  (expression .lowest cursor).andThen fun tested _ condition =>
    (expect .leftBrace tested).andThen fun opened _ _ =>
      ((block opened.next).since opened.next_suffix).andThen fun closed _ consequence =>
        if closed.peek = .elseWord then
          ((expect .leftBrace closed.next).andThen fun reopened _ _ =>
            ((block reopened.next).map fun alternative =>
              .conditional condition consequence (some alternative)).since
                reopened.next_suffix).since closed.next_suffix
        else
          .succeed closed (.conditional condition consequence none)
termination_by 8 * cursor.length + 7
decreasing_by
  all_goals grind only [→ List.IsSuffix.length_le, Cursor.length_next]

/-- Parameters and body, entered on the word before them. -/
def callable (token : Token) (rest : Cursor) : Reply (token :: rest) (List String × Block) :=
  (expect .leftParen (token :: rest)).andThen fun listed _ _ =>
    (parameterList listed).andThen fun headed _ parameters =>
      (expect .leftBrace headed).andThen fun opened _ _ =>
        ((block opened.next).map fun body => (parameters, body)).since opened.next_suffix
termination_by 8 * (token :: rest).length
decreasing_by
  all_goals grind only [→ List.IsSuffix.length_le, Cursor.length_next, List.length_cons]

/-- Goes on with an expression as long as a stronger continuation follows it. -/
def continuation (weaker : Strength) (left : Expression) (cursor : Cursor) :
    Reply cursor Expression :=
  if _continues : cursor.Continues weaker then
    ((extension left cursor.next).andThen fun stop _ extended =>
      continuation weaker extended stop).since cursor.next_suffix
  else
    .succeed cursor left
termination_by 8 * cursor.length + 2
decreasing_by
  all_goals
    grind only [→ List.IsSuffix.length_le, → Cursor.length_next_lt_of_strength, Cursor.Continues]

/-- One continuation of an expression, entered on the token that tells it. -/
def extension (left : Expression) (cursor : Cursor) : Reply cursor Expression :=
  match cursor with
  | [] => .fail [] (.noContinuation .endOfInput)
  | token :: rest =>
    match token.kind with
    | .leftParen =>
      ((expressionList .rightParen rest).map (.call left)).since (List.suffix_cons token rest)
    | .leftBracket =>
      ((expression .lowest rest).andThen fun stop _ position =>
        (expect .rightBracket stop).map fun _ => .index left position).since
          (List.suffix_cons token rest)
    | kind =>
      match BinaryOperator.ofKind? kind with
      | some operator =>
        ((expression (Strength.ofKind kind) rest).map (.binary operator left)).since
          (List.suffix_cons token rest)
      | none => .fail (token :: rest) (.noContinuation kind)
termination_by 8 * cursor.length + 2
decreasing_by
  all_goals grind only [List.length_cons]

/-- Expressions separated by commas up to a closing token, entered after the opening one. -/
def expressionList (close : TokenKind) (cursor : Cursor) : Reply cursor (List Expression) :=
  if cursor.kind = close then .succeed cursor [] else expressionItems close cursor
termination_by 8 * cursor.length + 6
decreasing_by all_goals omega

/-- The same for at least one expression. -/
def expressionItems (close : TokenKind) (cursor : Cursor) : Reply cursor (List Expression) :=
  (expression .lowest cursor).andThen fun stop _ item =>
    if _more : stop.peek = .comma then
      ((expressionItems close stop.next.next).map (item :: ·)).since
        (stop.next.next_suffix.trans stop.next_suffix)
    else
      (expect close stop).map fun _ => [item]
termination_by 8 * cursor.length + 5
decreasing_by
  all_goals
    grind only [→ List.IsSuffix.length_le, Cursor.length_next, → Cursor.length_next_lt_of_peek]

/-- Keys and values up to a closing brace, entered after the opening one.  A comma may stand
after the last pair. -/
def pairList (cursor : Cursor) : Reply cursor (List (Expression × Expression)) :=
  if cursor.kind = .rightBrace then
    .succeed cursor []
  else
    (expression .lowest cursor).andThen fun keyed _ key =>
      (expect .colon keyed).andThen fun colon _ _ =>
        ((expression .lowest colon.next).since colon.next_suffix).andThen fun stop _ value =>
          if stop.peek = .rightBrace then
            (Reply.succeed stop.next [(key, value)]).since stop.next_suffix
          else if _more : stop.peek = .comma then
            ((pairList stop.next.next).map ((key, value) :: ·)).since
              (stop.next.next_suffix.trans stop.next_suffix)
          else
            .fail stop (.unexpected .comma stop.peek)
termination_by 8 * cursor.length + 5
decreasing_by
  all_goals
    grind only [→ List.IsSuffix.length_le, Cursor.length_next, → Cursor.length_next_lt_of_peek]

/-- Statements up to a closing brace, entered after the opening one. -/
def block (cursor : Cursor) : Reply cursor Block :=
  if cursor.kind = .rightBrace then
    .succeed cursor []
  else if _more : cursor.kind = .endOfInput then
    .fail cursor (.unexpected .rightBrace .endOfInput)
  else
    (statement cursor).orSkip fun stop _ kept =>
      match kept with
      | some first => ((block stop.next).map (first :: ·)).since stop.next_suffix
      | none =>
        if stop.kind = .rightBrace then .succeed stop []
        else (block stop.next).since stop.next_suffix
termination_by 8 * cursor.length + 6
decreasing_by
  all_goals grind only [→ List.IsSuffix.length_le, Cursor.length_next, → Cursor.length_next_lt]
end

end MonkeyLang
