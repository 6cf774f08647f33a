import MonkeyLang.Proofs.Evaluation.Attaining
import MonkeyLang.Proofs.Scanning.Joining
import MonkeyLang.Proofs.Session.Reading
import MonkeyLang.Proofs.Value.Arithmetic

/-!
# Arithmetic from the text to the value

A text that writes an operator between two integers is worth what the operator makes of them, so the
laws of arithmetic hold of what a session answers. Every integer can be written, the least one too:
the minus sign before its digits belongs to the number, and without it the digits do not fit. In
parentheses the number is negated instead.

These texts neither look up a name nor call anything, so no binding and no macro of the session has
a say, and the session is left as it was.
-/

set_option autoImplicit false

namespace MonkeyLang

/-- What is shown for the result of an operator: an error is a value too. -/
def Value.ofResult : Except RuntimeError Value → Value
  | .ok value => value
  | .error cause => .error cause

/-- The text that negates a number which is written in parentheses. -/
def negationText (value : Int64) : String :=
  "-(" ++ (Expression.integer value).render ++ ")"

/-! ## Reading the texts -/

theorem parseText_negationText (value : Int64) :
    parseText (negationText value) = ⟨[.evaluate (.unary .negate (.integer value))], []⟩ := by
  have opening : scanAll "-(".toList = [.symbol .minus, .symbol .leftParen] := by
    decide +kernel
  have closing : scanAll ")".toList = [.symbol .rightParen] := by
    decide +kernel
  have delimited : Delimited "-(".toList := by
    decide +kernel
  have apart : Apart ")".toList := rfl
  have tokens : tokenize (negationText value) =
      [.symbol .minus, .symbol .leftParen] ++
        ((Expression.integer value).tokens ++ [.symbol .rightParen]) := by
    rw [tokenize, negationText, String.append_assoc, String.toList_append, String.toList_append,
      scanAll_append delimited (by rw [opening]; decide), opening,
      @Expression.scanAll_render (.integer value) trivial _ apart, closing]
  have operand := (@Expression.spelling_tokens (.integer value) trivial).enclosed
  have negated := @Spelling.unary .negate .tight _ _ "-" (by decide) (fun _ => by rintro ⟨⟩) operand
  have program := Spelling.unclosed (.evaluate negated) .noStatements (by decide)
  rw [List.append_nil] at program
  rw [parseText, tokens]
  exact parse_of_spelling program

/-! ## What they are worth -/

namespace Session

/-- A program that is one expression without a name or a call in it is worth what the expression is
worth, and its evaluation leaves the machine alone. -/
theorem run_of_ofExcept {session : Session} {depth : Nat} {expression : Expression}
    {result : Except RuntimeError Value}
    (worth : evaluate depth session.names expression = Computation.ofExcept result) :
    session.run depth [.evaluate expression] = some (.value (.ofResult result), session) := by
  cases result with
  | ok value => exact run_of_block (by rw [block_evaluate, worth]; rfl)
  | error cause => exact run_of_block (by rw [block_evaluate, worth]; rfl)

variable (session : Session) (depth : Nat)

theorem read_integer (value : Int64) :
    session.read (depth + 1) (Expression.integer value).render =
      some (.value (.integer value), session) :=
  @read_render (depth + 1) session [.evaluate (.integer value)] ⟨trivial, trivial⟩

theorem read_binary (operator : BinaryOperator) (left right : Int64) :
    session.read (depth + 2)
        (Expression.binary operator (.integer left) (.integer right)).render =
      some (.value (.ofResult (Value.applyBinary (.integer left) operator (.integer right))),
        session) := by
  refine (@read_render (depth + 2) session
    [.evaluate (.binary operator (.integer left) (.integer right))]
    ⟨⟨trivial, trivial⟩, trivial⟩).trans ?_
  exact run_of_ofExcept rfl

theorem read_negationText (value : Int64) :
    session.read (depth + 2) (negationText value) = some (.value (.integer (-value)), session) := by
  rw [read, parseText_negationText, List.isEmpty_nil, if_pos rfl]
  exact @run_of_ofExcept session (depth + 2) (.unary .negate (.integer value)) (.ok _) rfl

end Session

/-- **Arithmetic is exact up to 64 bits, from the text to the value.** -/
theorem arithmetic_exact (session : Session) (depth : Nat) (left right : Int64) :
    Value.ExactOn left right ∧
    (∀ operator, session.read (depth + 2)
        (Expression.binary operator (.integer left) (.integer right)).render =
      some (.value (.ofResult (Value.applyBinary (.integer left) operator (.integer right))),
        session)) ∧
    session.read (depth + 1) (Expression.integer left).render =
      some (.value (.integer left), session) ∧
    ∃ negated, WrapsTo (-left.toInt) negated ∧
      session.read (depth + 2) (negationText left) = some (.value (.integer negated), session) :=
  ⟨Value.exactOn left right, fun operator => session.read_binary depth operator left right,
    session.read_integer depth left, -left, wrapsTo_of_toInt_eq (Int64.toInt_neg left),
    session.read_negationText depth left⟩

end MonkeyLang
