import MonkeyLang.Proofs.Parsing.Causes
import MonkeyLang.Proofs.Parsing.Locality
import MonkeyLang.Proofs.Scanning.Literals

/-!
# Diagnostics are justified

A diagnostic names kinds and literals that the text has (`Diagnostic.JustifiedBy`). It never asks
for the token that stands there, misses an operand where one begins, or takes an integer for too
large that fits; and it never misses a continuation.

Where a diagnostic arises is known (`arises_of_mem_diagnostics`), and the place is among the tokens
of the text. All that is left is to read off what stands there, and that the literal of an integer
is written in digits.

The other way around, an integer that fits is an operand (`operand_integer`), and one that fits with
the minus sign before it is the operand of that sign (`operand_minus_integer`).
-/

set_option autoImplicit false

namespace MonkeyLang

/-! ## What a text says -/

/-- A token of this kind is among the tokens, or it is the end of the input. -/
def TokenKind.OccursIn (kind : TokenKind) (tokens : List Token) : Prop :=
  kind = .endOfInput ∨ ∃ token ∈ tokens, token.kind = kind

/-- The tokens bear out what the diagnostic says. -/
def Diagnostic.JustifiedBy (tokens : List Token) : Diagnostic → Prop
  | .unexpected expected found => expected ≠ found ∧ found.OccursIn tokens
  | .noOperand kind => kind.OccursIn tokens ∧ kind.startsExpression = false
  | .noContinuation _ => False
  | .integerOutOfRange literal => ⟨.integer, literal⟩ ∈ tokens ∧
      ∃ value, Decimal.natural? literal.toList = some value ∧ 9223372036854775808 ≤ value

theorem Cursor.kind_occursIn {place tokens : Cursor} (among : place <:+ tokens) :
    place.kind.OccursIn tokens := by
  cases place with
  | nil => exact .inl rfl
  | cons token rest => exact .inr ⟨token, among.mem List.mem_cons_self, rfl⟩

/-- Digits that are not read have a value that does not fit. -/
theorem Decimal.le_of_int64?_eq_none {text : List Char} {value : Nat}
    (numeral : natural? text = some value) (unread : int64? text = none) :
    9223372036854775808 ≤ value := by
  refine Nat.not_lt.mp fun fits => ?_
  rw [int64?_of_natural? numeral fits] at unread
  cases unread

/-- A diagnostic that arises among the tokens of a text is justified by them. -/
theorem Diagnostic.ArisesAt.justifiedBy {diagnostic : Diagnostic} {place : Cursor} {text : String}
    (arises : diagnostic.ArisesAt place) (among : place <:+ tokenize text) :
    diagnostic.JustifiedBy (tokenize text) := by
  cases arises with
  | @unexpected expected token rest _ _ other =>
      exact ⟨other.symm, Cursor.kind_occursIn ((List.suffix_cons token rest).trans among)⟩
  | unclosed _ => exact ⟨by decide, .inl rfl⟩
  | noOperand starts => exact ⟨Cursor.kind_occursIn among, starts⟩
  | @outOfRange literal rest tooLarge =>
      have mem : (⟨.integer, literal⟩ : Token) ∈ tokenize text := among.mem List.mem_cons_self
      obtain ⟨value, numeral⟩ :=
        Option.isSome_iff_exists.mp ((regular_tokenize text _ mem).digits rfl)
      exact ⟨mem, value, numeral, Decimal.le_of_int64?_eq_none numeral tooLarge⟩

/-! ## Integers that fit -/

/-- An integer that fits is an operand by itself. -/
theorem operand_integer {digits : String} {value : Nat}
    (numeral : Decimal.natural? digits.toList = some value) (fits : value < 9223372036854775808)
    (rest : Cursor) :
    operand (⟨.integer, digits⟩ :: rest) =
      .succeed (⟨.integer, digits⟩ :: rest) (.integer (Int64.ofNat value)) := by
  rw [operand]
  simp only [Decimal.int64?_of_natural? numeral fits]

/-- A minus sign before digits belongs to the number that they stand for, if that fits. -/
theorem operand_minus_integer {digits : String} {value : Nat}
    (numeral : Decimal.natural? digits.toList = some value) (fits : value ≤ 9223372036854775808)
    (sign : String) (rest : Cursor) :
    operand (⟨.minus, sign⟩ :: ⟨.integer, digits⟩ :: rest) =
      (continuation .unary (.integer (Int64.ofInt (-value))) (⟨.integer, digits⟩ :: rest)).since
        (List.suffix_cons _ _) := by
  have negated : Cursor.negated? (⟨.integer, digits⟩ :: rest) = some (Int64.ofInt (-value)) :=
    Decimal.int64?_minus_of_natural? numeral fits
  rw [operand_minus, operandAfterMinus, negated]

/-- **Every diagnostic of a text is justified by its tokens, and an integer that fits where it
stands is accepted.** -/
theorem diagnostics_justified :
    (∀ text, ∀ diagnostic ∈ (parseText text).diagnostics,
      diagnostic.JustifiedBy (tokenize text)) ∧
    ∀ (digits : String) (value : Nat) (rest : Cursor),
      Decimal.natural? digits.toList = some value →
      (value < 9223372036854775808 → ∃ number : Int64, number.toInt = value ∧
        operand (⟨.integer, digits⟩ :: rest) =
          .succeed (⟨.integer, digits⟩ :: rest) (.integer number)) ∧
      (value ≤ 9223372036854775808 → ∀ sign, ∃ number : Int64, number.toInt = -value ∧
        operand (⟨.minus, sign⟩ :: ⟨.integer, digits⟩ :: rest) =
          (continuation .unary (.integer number) (⟨.integer, digits⟩ :: rest)).since
            (List.suffix_cons _ _)) := by
  refine ⟨fun text diagnostic mem => ?_, fun digits value rest numeral => ⟨fun fits => ?_, ?_⟩⟩
  · obtain ⟨place, among, arises⟩ := arises_of_mem_diagnostics mem
    exact arises.justifiedBy among
  · exact ⟨Int64.ofNat value, Int64.toInt_ofNat_of_lt fits, operand_integer numeral fits rest⟩
  · intro fits sign
    exact ⟨Int64.ofInt (-value), Int64.toInt_ofInt_of_le (by omega) (by omega),
      operand_minus_integer numeral fits sign rest⟩

/-- The least number and the greatest one, the digits of the least one without their sign, a binding
without a name, and a closing parenthesis that closes nothing. -/
theorem diagnostics_justified_limits :
    let text := "-9223372036854775808; 9223372036854775807; 9223372036854775808; let 5; )"
    let cursor : Cursor := [⟨.integer, "9223372036854775808"⟩, ⟨.semicolon, ";"⟩]
    (parseText text).diagnostics = [.integerOutOfRange "9223372036854775808",
        .unexpected .identifier .integer, .noOperand .rightParen] ∧
      (∀ diagnostic ∈ (parseText text).diagnostics, diagnostic.JustifiedBy (tokenize text)) ∧
      (∃ number : Int64, number.toInt = -9223372036854775808 ∧
        operand (⟨.minus, "-"⟩ :: cursor) =
          (continuation .unary (.integer number) cursor).since (List.suffix_cons _ _)) ∧
      ∃ number : Int64, number.toInt = 9223372036854775807 ∧
        operand [⟨.integer, "9223372036854775807"⟩] = .succeed _ (.integer number) := by
  intro text cursor
  obtain ⟨justified, accepted⟩ := diagnostics_justified
  have greatest := accepted "9223372036854775807" 9223372036854775807 [] (by decide +kernel)
  have least := accepted "9223372036854775808" 9223372036854775808 [⟨.semicolon, ";"⟩]
    (by decide +kernel)
  exact ⟨by decide +kernel, justified text, least.2 (by decide) "-", greatest.1 (by decide)⟩

end MonkeyLang
