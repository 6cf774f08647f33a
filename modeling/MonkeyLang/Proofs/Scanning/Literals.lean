import MonkeyLang.Decimal
import MonkeyLang.Proofs.Scanning.Step

/-!
# Literals belong to their kinds

The tokens of a text carry what their kinds say they carry. An identifier is a word
that is no keyword, a symbol or a keyword has one text, an integer is written in
digits, and a string has no quote in it; only an illegal token can carry anything,
and the end of the input is no token of a text (`legal_tokenize`). A parser that looks
at kinds alone therefore passes over nothing that the text says differently.
-/

set_option autoImplicit false

namespace MonkeyLang

/-! ## What tokens carry -/

/-- The one text of a kind that has only one: a symbol has its name and a keyword its word. -/
def TokenKind.text? (kind : TokenKind) : Option String :=
  match kind with
  | .illegal | .endOfInput | .identifier | .integer | .string => none
  | .functionWord => some "fn"
  | .letWord => some "let"
  | .trueWord => some "true"
  | .falseWord => some "false"
  | .ifWord => some "if"
  | .elseWord => some "else"
  | .returnWord => some "return"
  | .macroWord => some "macro"
  | symbol => some symbol.name

/-- A token with a literal of its kind. No illegal token is legal, and the end of the input is not
either. -/
inductive Token.Legal : Token → Prop where
  | name {name : String} (isName : IsName name) : Legal ⟨.identifier, name⟩
  /-- A symbol or a keyword. -/
  | fixed {kind : TokenKind} {text : String} (only : kind.text? = some text) : Legal ⟨kind, text⟩
  | integer {digits : String} (nonempty : digits.toList ≠ [])
    (all : digits.toList.all Char.isDigit = true) : Legal ⟨.integer, digits⟩
  | string {text : String} (unquoted : '"' ∉ text.toList) : Legal ⟨.string, text⟩

/-- A token of a text: it carries the text of its kind, if its kind has one, or the digits of a
number, if it is an integer. -/
structure Token.Regular (token : Token) : Prop where
  more : token.kind ≠ .endOfInput
  text : ∀ text ∈ token.kind.text?, token.literal = text
  digits : token.kind = .integer → (Decimal.natural? token.literal.toList).isSome

/-- An identifier carries a name, and a string no quote. -/
def Token.Sound (token : Token) : Prop :=
  (token.kind = .identifier → IsName token.literal) ∧
    (token.kind = .string → '"' ∉ token.literal.toList)

theorem Token.Legal.regular {token : Token} (legal : token.Legal) : token.Regular := by
  cases legal with
  | name => exact ⟨by rintro ⟨⟩, by rintro _ ⟨⟩, by rintro ⟨⟩⟩
  | fixed only =>
      refine ⟨?_, ?_, ?_⟩
      · rintro rfl
        cases only
      · intro text mem
        rw [Option.mem_def, only] at mem
        exact Option.some.inj mem
      · rintro rfl
        cases only
  | integer nonempty all =>
      refine ⟨by rintro ⟨⟩, by rintro _ ⟨⟩, fun _ => ?_⟩
      rw [Decimal.natural?, if_pos ⟨nonempty, all⟩]
      rfl
  | string => exact ⟨by rintro ⟨⟩, by rintro _ ⟨⟩, by rintro ⟨⟩⟩

theorem Token.Legal.sound {token : Token} (legal : token.Legal) : token.Sound := by
  cases legal with
  | name isName => exact ⟨fun _ => isName, by rintro ⟨⟩⟩
  | fixed only =>
      constructor <;>
        · rintro rfl
          cases only
  | integer => exact ⟨by rintro ⟨⟩, by rintro ⟨⟩⟩
  | string unquoted => exact ⟨by rintro ⟨⟩, fun _ => unquoted⟩

/-! ## What is scanned -/

theorem TokenKind.mem_keywords_of_lookup {word : String} {kind : TokenKind}
    (found : keywords.lookup word = some kind) : (word, kind) ∈ keywords := by
  obtain ⟨before, after, same, -⟩ := List.lookup_eq_some_iff.mp found
  rw [same]
  exact List.mem_append_right _ List.mem_cons_self

/-- A word is a keyword that has this word for its text, or an identifier. -/
theorem Token.legal_word {word : String} (start : word.toList.head?.any isWordStart = true)
    (parts : word.toList.all isWordPart = true) : (Token.word word).Legal := by
  cases found : TokenKind.keywords.lookup word with
  | none =>
      have identifier : TokenKind.ofWord word = .identifier := by
        rw [TokenKind.ofWord, found]
        rfl
      rw [Token.word, identifier]
      exact .name ⟨start, parts, identifier⟩
  | some kind =>
      have texts : ∀ entry ∈ TokenKind.keywords, entry.2.text? = some entry.1 := by
        decide
      rw [Token.word, TokenKind.ofWord, found]
      exact .fixed (texts _ (TokenKind.mem_keywords_of_lookup found))

theorem legal_scanString (rest : List Char) :
    (scanString rest).1.kind = .illegal ∨ (scanString rest).1.Legal := by
  unfold scanString
  split
  · exact .inl rfl
  · refine .inr (.string fun quoted => ?_)
    rw [String.toList_ofList] at quoted
    have all : (rest.takeWhile (· != '"')).all (· != '"') = true := List.all_takeWhile
    exact absurd (List.all_eq_true.mp all _ quoted) (by decide)

theorem symbolOf?_text? {c : Char} {kind : TokenKind} (symbol : symbolOf? c = some kind) :
    kind.text? = some kind.name := by
  revert symbol
  unfold symbolOf?
  split <;> intro symbol <;> cases symbol <;> rfl

theorem symbolWithEqual?_text? {c : Char} {kind : TokenKind}
    (symbol : symbolWithEqual? c = some kind) : kind.text? = some kind.name := by
  revert symbol
  unfold symbolWithEqual?
  split <;> intro symbol <;> cases symbol <;> rfl

theorem legal_scanSymbol (c : Char) (rest : List Char) :
    (scanSymbol c rest).1.kind = .illegal ∨ (scanSymbol c rest).1.Legal := by
  unfold scanSymbol
  split
  · next symbol => exact .inr (.fixed (symbolWithEqual?_text? symbol))
  · split
    · next symbol => exact .inr (.fixed (symbolOf?_text? symbol))
    · exact .inl rfl

theorem legal_scanFrom (c : Char) (rest : List Char) :
    (scanFrom c rest).1.kind = .illegal ∨ (scanFrom c rest).1.Legal := by
  unfold scanFrom
  split
  · next start =>
    refine .inr (Token.legal_word ?_ ?_)
    · rw [String.toList_ofList]
      exact start
    · rw [String.toList_ofList, List.all_cons, isWordPart_of_isWordStart start,
        List.all_takeWhile]
      rfl
  · split
    · next digit =>
      refine .inr (.integer ?_ ?_)
      · rw [String.toList_ofList]
        exact List.cons_ne_nil _ _
      · rw [String.toList_ofList, List.all_cons, digit, List.all_takeWhile]
        rfl
    · split
      · exact legal_scanString rest
      · exact legal_scanSymbol c rest

/-- **Every token of a text is illegal or has a literal of its kind.** -/
theorem legal_tokenize (text : String) :
    ∀ token ∈ tokenize text, token.kind = .illegal ∨ token.Legal :=
  forall_mem_tokenize legal_scanFrom text

/-- Every token of a text carries what its kind says. -/
theorem regular_tokenize (text : String) : ∀ token ∈ tokenize text, token.Regular := by
  rintro ⟨kind, literal⟩ mem
  rcases legal_tokenize text _ mem with rfl | legal
  · exact ⟨by rintro ⟨⟩, by rintro _ ⟨⟩, by rintro ⟨⟩⟩
  · exact legal.regular

/-- Every token of a text is sound. -/
theorem sound_tokenize (text : String) : ∀ token ∈ tokenize text, token.Sound := by
  rintro ⟨kind, literal⟩ mem
  rcases legal_tokenize text _ mem with rfl | legal
  · exact ⟨by rintro ⟨⟩, by rintro ⟨⟩⟩
  · exact legal.sound

end MonkeyLang
