import Mathlib.Data.List.Forall2
import MonkeyLang.Proofs.Parsing.Renderability
import MonkeyLang.Proofs.Parsing.Soundness
import MonkeyLang.Proofs.Rendering.Tokens
import MonkeyLang.Proofs.Scanning.Literals

/-!
# Reading and rendering keep every token

A text that is read without a diagnostic and the text of the program it is read as have
the same tokens, up to what the tree does not keep: the parentheses, commas and
semicolons that group and separate, the leading zeros of a numeral, and minus signs
before a zero (`substance_render`). So a parse that succeeds leaves no token out, reads
none twice, and moves none.

The tokens that are left once the grouping ones and the signs of zeros are deleted are
the substance of a list of tokens. Deleting goes from the end of the list to its
beginning one token at a time, so the tokens of a part can be compared before any
tokens that were compared already (`Alike`). The comparison is an induction over the
spelling that the parser has found.
-/

set_option autoImplicit false

namespace MonkeyLang

/-! ## The substance of tokens -/

/-- The tokens that only group or separate others. -/
def TokenKind.isGrouping : TokenKind → Bool
  | .leftParen | .rightParen | .semicolon | .comma => true
  | _ => false

/-- Whether a token is an integer of value zero. -/
def Token.isZero (token : Token) : Bool :=
  token.kind == .integer && Decimal.natural? token.literal.toList == some 0

/-- Whether the tokens begin with a zero, or with minus signs and then a zero. -/
def leadsToZero : List Token → Bool
  | [] => false
  | token :: rest => if token.kind = .minus then leadsToZero rest else token.isZero

/-- The tokens without the runs of minus signs that stand directly before a zero. -/
def withoutZeroSigns : List Token → List Token
  | [] => []
  | token :: rest =>
    if token.kind = .minus ∧ leadsToZero rest then withoutZeroSigns rest
    else token :: withoutZeroSigns rest

/-- The tokens without the grouping ones, and then without the signs of zeros. -/
def substance (tokens : List Token) : List Token :=
  withoutZeroSigns (tokens.filter fun token => !token.kind.isGrouping)

/-- Tokens of one kind, with the same value if they are integers and the same text otherwise. -/
def Token.Same (token other : Token) : Prop :=
  token.kind = other.kind ∧
    if token.kind = .integer then
      Decimal.natural? token.literal.toList = Decimal.natural? other.literal.toList
    else
      token.literal = other.literal

/-! ## Deleting token by token -/

/-- Puts a token before those that are kept, unless it is to be deleted. -/
def absorb (token : Token) (kept : List Token) : List Token :=
  if token.kind.isGrouping then kept
  else if token.kind = .minus ∧ kept.head?.any Token.isZero then kept
  else token :: kept

theorem leadsToZero_eq (tokens : List Token) :
    leadsToZero tokens = (withoutZeroSigns tokens).head?.any Token.isZero := by
  induction tokens with
  | nil => rfl
  | cons token rest ih =>
      rw [leadsToZero, withoutZeroSigns]
      by_cases minus : token.kind = .minus
      · have other : token.isZero = false := by rw [Token.isZero, minus]; rfl
        cases leads : leadsToZero rest with
        | true => rw [if_pos minus, if_pos ⟨minus, rfl⟩, ← ih, leads]
        | false => simp [minus, other]
      · simp [minus]

/-- The substance is what is kept when the tokens are put in one by one, from the last one on. -/
theorem substance_eq_foldr (tokens : List Token) : substance tokens = tokens.foldr absorb [] := by
  induction tokens with
  | nil => rfl
  | cons token rest ih =>
      rw [List.foldr_cons, ← ih, substance, substance, absorb, List.filter_cons]
      cases grouping : token.kind.isGrouping with
      | true => simp
      | false => simp [withoutZeroSigns, leadsToZero_eq]

theorem absorb_of_isGrouping {kind : TokenKind} (grouping : kind.isGrouping = true) (a : String)
    (kept : List Token) : absorb ⟨kind, a⟩ kept = kept :=
  if_pos grouping

@[simp]
theorem absorb_leftParen (a : String) (kept : List Token) : absorb ⟨.leftParen, a⟩ kept = kept :=
  absorb_of_isGrouping rfl a kept

@[simp]
theorem absorb_rightParen (a : String) (kept : List Token) : absorb ⟨.rightParen, a⟩ kept = kept :=
  absorb_of_isGrouping rfl a kept

@[simp]
theorem absorb_semicolon (a : String) (kept : List Token) : absorb ⟨.semicolon, a⟩ kept = kept :=
  absorb_of_isGrouping rfl a kept

@[simp]
theorem absorb_comma (a : String) (kept : List Token) : absorb ⟨.comma, a⟩ kept = kept :=
  absorb_of_isGrouping rfl a kept

/-- The sign of a zero is deleted. -/
theorem absorb_sign {token : Token} (zero : token.isZero = true) (a : String) (kept : List Token) :
    absorb ⟨.minus, a⟩ (absorb token kept) = absorb token kept := by
  have integer : token.kind = .integer := by
    rw [Token.isZero, Bool.and_eq_true, beq_iff_eq] at zero
    exact zero.1
  have kept : absorb token kept = token :: kept := by
    rw [absorb, integer]
    rfl
  rw [kept]
  simp [absorb, TokenKind.isGrouping, zero]

/-! ## Tokens that are alike -/

theorem Token.same_refl (token : Token) : token.Same token := by
  refine ⟨rfl, ?_⟩
  split <;> rfl

theorem Token.Same.isZero_eq {token other : Token} (same : token.Same other) :
    token.isZero = other.isZero := by
  obtain ⟨kind, content⟩ := same
  rw [Token.isZero, Token.isZero, ← kind]
  by_cases integer : token.kind = .integer
  · rw [if_pos integer] at content
    rw [content]
  · have other : (token.kind == .integer) = false := beq_false_of_ne integer
    rw [other, Bool.false_and, Bool.false_and]

/-- The same tokens, before tokens that are the same already. -/
theorem same_absorb {token other : Token} {kept kept' : List Token} (same : token.Same other)
    (alike : List.Forall₂ Token.Same kept kept') :
    List.Forall₂ Token.Same (absorb token kept) (absorb other kept') := by
  have zero : kept.head?.any Token.isZero = kept'.head?.any Token.isZero := by
    cases alike with
    | nil => rfl
    | cons first _ => exact first.isZero_eq
  rw [absorb, absorb, ← same.1, zero]
  split
  · exact alike
  · split
    · exact alike
    · exact .cons same alike

/-- Two lists of tokens that have the same substance, before any tokens of the same substance. -/
def Alike (tokens others : List Token) : Prop :=
  ∀ kept kept', List.Forall₂ Token.Same kept kept' →
    List.Forall₂ Token.Same (tokens.foldr absorb kept) (others.foldr absorb kept')

/-- A symbol or a keyword is the same in every text. -/
theorem Token.Regular.same {kind : TokenKind} {a text : String}
    (regular : Token.Regular ⟨kind, a⟩) (only : kind.text? = some text) :
    Token.Same ⟨kind, a⟩ ⟨kind, text⟩ := by
  have literal : a = text := regular.text text only
  rw [literal]
  exact Token.same_refl _

/-- Numerals of one value are the same. -/
theorem same_numeralToken {digits : String} {value : Nat}
    (numeral : Decimal.natural? digits.toList = some value) :
    Token.Same ⟨.integer, digits⟩ (numeralToken value) := by
  refine ⟨rfl, ?_⟩
  rw [if_pos rfl, numeral, numeralToken, String.toList_ofList, Decimal.natural?_digits]

theorem BinaryOperator.text?_kind (operator : BinaryOperator) :
    operator.kind.text? = some operator.kind.name := by
  cases operator <;> rfl

theorem UnaryOperator.text?_kind (operator : UnaryOperator) :
    operator.kind.text? = some operator.kind.name := by
  cases operator <;> rfl

/-! ## The tokens of lists, one item at a time -/

section Items

variable (kept : List Token)

@[simp]
theorem foldr_statementTokens_cons (first : Statement) (body : List Statement) :
    (statementTokens (first :: body)).foldr absorb kept =
      first.tokens.foldr absorb ((statementTokens body).foldr absorb kept) := by
  cases body with
  | nil => rfl
  | cons second body =>
      rw [statementTokens, List.foldr_append, List.foldr_append]
      · cases first <;> simp [Statement.separatorTokens, Token.symbol]
      · rintro ⟨⟩

@[simp]
theorem foldr_listTokens_cons (first : Expression) (list : List Expression) :
    (listTokens (first :: list)).foldr absorb kept =
      first.tokens.foldr absorb ((listTokens list).foldr absorb kept) := by
  cases list with
  | nil => rfl
  | cons second list => simp [listTokens, Token.symbol]

@[simp]
theorem foldr_pairTokens_cons (key value : Expression) (list : List (Expression × Expression)) :
    (pairTokens ((key, value) :: list)).foldr absorb kept =
      key.tokens.foldr absorb (absorb (.symbol .colon)
        (value.tokens.foldr absorb ((pairTokens list).foldr absorb kept))) := by
  cases list with
  | nil => simp [pairTokens]
  | cons second list => simp [pairTokens, Token.symbol]

@[simp]
theorem foldr_nameTokens_cons (name : String) (list : List String) :
    (nameTokens (name :: list)).foldr absorb kept =
      absorb ⟨.identifier, name⟩ ((nameTokens list).foldr absorb kept) := by
  cases list with
  | nil => rfl
  | cons second list => simp [nameTokens, Token.symbol]

end Items

/-! ## Spellings keep the substance -/

/-- The tokens that a phrase is rendered with. -/
def Phrase.tokens : Phrase → List Token
  | .expression _ value => value.tokens
  | .expressions list => listTokens list
  | .pairs list => pairTokens list
  | .names list => nameTokens list
  | .statement first => first.tokens
  | .statements body => statementTokens body

/-- Tokens in braces. -/
theorem alike_braced {a b : String} {inside others : List Token}
    (opens : Token.Regular ⟨.leftBrace, a⟩) (closes : Token.Regular ⟨.rightBrace, b⟩)
    (inner : Alike inside others) :
    Alike (⟨.leftBrace, a⟩ :: (inside ++ [⟨.rightBrace, b⟩])) (bracedTokens others) := by
  intro kept kept' alike
  have both := inner _ _ (same_absorb (closes.same rfl) alike)
  simpa [bracedTokens, Token.symbol] using same_absorb (opens.same rfl) both

/-- **Every spelling of a phrase has the substance of the tokens it is rendered with.** -/
theorem Spelling.alike {phrase : Phrase} {tokens : List Token} (spelling : Spelling phrase tokens) :
    (∀ token ∈ tokens, token.Regular) → Alike tokens phrase.tokens := by
  induction spelling with
  | identifier name => exact fun _ _ _ alike => same_absorb (Token.same_refl _) alike
  | string text => exact fun _ _ _ alike => same_absorb (Token.same_refl _) alike
  | @integer digits value numeral fits =>
      intro _ kept kept' alike
      have number : (Int64.ofNat value).toInt = value := by
        rw [← Int64.ofInt_eq_ofNat]
        exact Int64.toInt_ofInt_of_le (by omega) (by omega)
      rw [Phrase.tokens, Expression.tokens, number, integerTokens, if_neg (by omega)]
      exact same_absorb (same_numeralToken numeral) alike
  | @negative digits a value numeral fits =>
      intro regular kept kept' alike
      simp only [List.forall_mem_cons] at regular
      have number : (Int64.ofInt (-value)).toInt = -(value : Int) :=
        Int64.toInt_ofInt_of_le (by omega) (by omega)
      have same := same_absorb (same_numeralToken numeral) alike
      rw [Phrase.tokens, Expression.tokens, number, integerTokens, Int.natAbs_neg, Int.natAbs_natCast]
      split
      · exact same_absorb (regular.1.same rfl) same
      · have zero : value = 0 := by omega
        subst zero
        have isZero : Token.isZero ⟨.integer, digits⟩ = true := by simp [Token.isZero, numeral]
        rw [List.foldr_cons, List.foldr_cons, List.foldr_nil, absorb_sign isZero]
        exact same
  | trueWord | falseWord =>
      intro regular kept kept' alike
      rw [List.forall_mem_singleton] at regular
      exact same_absorb (regular.same rfl) alike
  | @unary operator level operand tokens a high apart inner ih =>
      intro regular kept kept' alike
      rw [List.forall_mem_cons] at regular
      have sign := regular.1.same operator.text?_kind
      have both := same_absorb sign (ih regular.2 _ _ alike)
      rw [Phrase.tokens, Expression.tokens]
      split <;> simpa [Phrase.tokens, Token.symbol] using both
  | @binary operator _ _ _ _ _ _ _ _ _ _ _ ihLeft ihRight =>
      intro regular kept kept' alike
      simp only [List.forall_mem_append, List.forall_mem_cons] at regular
      obtain ⟨regular, sign, regular'⟩ := regular
      have sign := sign.same operator.text?_kind
      have both := ihLeft regular _ _ (same_absorb sign (ihRight regular' _ _ alike))
      simpa [Phrase.tokens, Expression.tokens, Token.symbol] using both
  | call _ _ ihCallee ihArguments =>
      intro regular kept kept' alike
      simp only [List.forall_mem_append, List.forall_mem_cons] at regular
      have both := ihCallee regular.1 _ _ (ihArguments regular.2.2.1 _ _ alike)
      simpa [Phrase.tokens, Expression.tokens, Token.symbol] using both
  | index _ _ ihCollection ihPosition =>
      intro regular kept kept' alike
      simp only [List.forall_mem_append, List.forall_mem_cons] at regular
      obtain ⟨regular, opens, regular', closes, -⟩ := regular
      have position := ihPosition regular' _ _ (same_absorb (closes.same rfl) alike)
      have both := ihCollection regular _ _ (same_absorb (opens.same rfl) position)
      simpa [Phrase.tokens, Expression.tokens, Token.symbol] using both
  | array _ ih =>
      intro regular kept kept' alike
      simp only [List.forall_mem_append, List.forall_mem_cons] at regular
      obtain ⟨opens, regular, closes, -⟩ := regular
      have inside := ih regular _ _ (same_absorb (closes.same rfl) alike)
      simpa [Phrase.tokens, Expression.tokens, Token.symbol] using
        same_absorb (opens.same rfl) inside
  | hash _ ih =>
      intro regular kept kept' alike
      simp only [List.forall_mem_append, List.forall_mem_cons] at regular
      obtain ⟨opens, regular, closes, -⟩ := regular
      exact alike_braced opens closes (ih regular) _ _ alike
  | conditional _ _ ihTest ihInside =>
      intro regular kept kept' alike
      simp only [List.forall_mem_append, List.forall_mem_cons] at regular
      obtain ⟨word, test, opens, inside, closes, -⟩ := regular
      have braced := alike_braced opens closes (ihInside inside) _ _ alike
      have both := same_absorb (word.same rfl) (ihTest test _ _ braced)
      simpa [Phrase.tokens, Expression.tokens] using both
  | conditionalElse _ _ _ ihTest ihInside ihOther =>
      intro regular kept kept' alike
      simp only [List.forall_mem_append, List.forall_mem_cons] at regular
      obtain ⟨word, test, opens, inside, closes, otherwise, opens', other, closes', -⟩ := regular
      have alternative := alike_braced opens' closes' (ihOther other) _ _ alike
      have consequence := alike_braced opens closes (ihInside inside) _ _
        (same_absorb (otherwise.same rfl) alternative)
      have both := same_absorb (word.same rfl) (ihTest test _ _ consequence)
      simpa [Phrase.tokens, Expression.tokens] using both
  | function _ _ ihNames ihInside | macroLiteral _ _ ihNames ihInside =>
      intro regular kept kept' alike
      simp only [List.forall_mem_append, List.forall_mem_cons] at regular
      obtain ⟨word, -, names, -, opens, inside, closes, -⟩ := regular
      have braced := alike_braced opens closes (ihInside inside) _ _ alike
      have both := same_absorb (word.same rfl) (ihNames names _ _ braced)
      simpa [Phrase.tokens, Expression.tokens, parameterTokens, Token.symbol] using both
  | parenthesized _ ih =>
      intro regular kept kept' alike
      simp only [List.forall_mem_append, List.forall_mem_cons] at regular
      simpa [Phrase.tokens] using ih regular.2.1 _ _ alike
  | noExpressions | noPairs | noNames | noStatements => exact fun _ _ _ alike => alike
  | oneExpression _ ih => exact ih
  | moreExpressions _ _ ihHead ihTail =>
      intro regular kept kept' alike
      simp only [List.forall_mem_append, List.forall_mem_cons] at regular
      simpa [Phrase.tokens] using ihHead regular.1 _ _ (ihTail regular.2.2 _ _ alike)
  | lastPair _ _ ihKey ihValue =>
      intro regular kept kept' alike
      simp only [List.forall_mem_append, List.forall_mem_cons] at regular
      obtain ⟨key, colon, value⟩ := regular
      have both := ihKey key _ _ (same_absorb (colon.same rfl) (ihValue value _ _ alike))
      simpa [Phrase.tokens, pairTokens, Token.symbol] using both
  | morePairs _ _ _ ihKey ihValue ihTail =>
      intro regular kept kept' alike
      simp only [List.forall_mem_append, List.forall_mem_cons] at regular
      obtain ⟨key, colon, value, -, others⟩ := regular
      have both := ihKey key _ _ (same_absorb (colon.same rfl)
        (ihValue value _ _ (ihTail others _ _ alike)))
      simpa [Phrase.tokens, Token.symbol] using both
  | oneName name => exact fun _ _ _ alike => same_absorb (Token.same_refl _) alike
  | @moreNames first second list more a tail ih =>
      intro regular kept kept' alike
      simp only [List.forall_mem_cons] at regular
      simpa [Phrase.tokens] using
        same_absorb (Token.same_refl ⟨.identifier, first⟩) (ih regular.2.2 _ _ alike)
  | @bind _ name _ _ _ _ _ ih =>
      intro regular kept kept' alike
      simp only [List.forall_mem_cons] at regular
      obtain ⟨word, -, assign, value⟩ := regular
      have both := same_absorb (Token.same_refl ⟨.identifier, name⟩)
        (same_absorb (assign.same rfl) (ih value _ _ alike))
      simpa [Phrase.tokens, Statement.tokens, Token.symbol] using
        same_absorb (word.same rfl) both
  | ret _ ih =>
      intro regular kept kept' alike
      simp only [List.forall_mem_cons] at regular
      simpa [Phrase.tokens, Statement.tokens, Token.symbol] using
        same_absorb (regular.1.same rfl) (ih regular.2 _ _ alike)
  | evaluate _ ih => exact ih
  | closed _ _ ihHead ihTail =>
      intro regular kept kept' alike
      simp only [List.forall_mem_append, List.forall_mem_cons] at regular
      simpa [Phrase.tokens] using ihHead regular.1 _ _ (ihTail regular.2.2 _ _ alike)
  | unclosed _ _ _ ihHead ihTail =>
      intro regular kept kept' alike
      simp only [List.forall_mem_append] at regular
      simpa [Phrase.tokens] using ihHead regular.1 _ _ (ihTail regular.2 _ _ alike)

/-- **Reading and rendering keep the substance of a text.** -/
theorem substance_render (text : String) (clean : (parseText text).diagnostics = []) :
    List.Forall₂ Token.Same (substance (tokenize text))
      (substance (tokenize (parseText text).program.render)) := by
  have regular := regular_tokenize text
  obtain ⟨used, after, same, ended, spelling⟩ :=
    spelling_of_parse (fun token mem => (regular token mem).digits) clean
  have whole : tokenize text = used := by
    cases after with
    | nil => rw [same, List.append_nil]
    | cons token rest =>
        have mem : token ∈ tokenize text := by simp [same]
        exact absurd ended (regular token mem).more
  subst whole
  have alike := spelling.alike regular [] [] .nil
  rw [substance_eq_foldr, substance_eq_foldr, tokenize_render (renderable_parseText text)]
  exact alike

/-- The sign of a sum is kept; the signs of the zeros, the comma and the parentheses are not. -/
theorem substance_render_zeros :
    (parseText "\x7b--0: -(1 + -00),\x7d").diagnostics = [] ∧
      (substance (tokenize "\x7b--0: -(1 + -00),\x7d")).map Token.literal =
        ["\x7b", "0", ":", "-", "1", "+", "00", "\x7d"] ∧
      List.Forall₂ Token.Same (substance (tokenize "\x7b--0: -(1 + -00),\x7d"))
        (substance (tokenize (parseText "\x7b--0: -(1 + -00),\x7d").program.render)) := by
  have clean : (parseText "\x7b--0: -(1 + -00),\x7d").diagnostics = [] := by decide +kernel
  have kept : (substance (tokenize "\x7b--0: -(1 + -00),\x7d")).map Token.literal =
      ["\x7b", "0", ":", "-", "1", "+", "00", "\x7d"] := by decide +kernel
  exact ⟨clean, kept, substance_render _ clean⟩

end MonkeyLang
