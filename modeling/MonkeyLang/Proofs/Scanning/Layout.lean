import MonkeyLang.Proofs.Scanning.Literals

/-!
# Texts laid out as tokens

A layout places tokens in a text one after the other. Each token is written out, a
string between its two quotes and any other token as its literal, and there are gaps
of blanks before, between and after them.

Reading undoes this. If the tokens are legal and no two of them touch, the text is read
as exactly the tokens of the layout (`tokenize_layout`). A gap ends a word, a number
and a symbol that could take an equals sign in, and a string ends at its quote, whatever
stands inside it.
-/

set_option autoImplicit false

namespace MonkeyLang

/-! ## Layouts -/

/-- The text that a token is written as: a string between two quotes, any other token as its
literal. -/
def Token.spelling (token : Token) : List Char :=
  if token.kind = .string then '"' :: (token.literal.toList ++ ['"']) else token.literal.toList

/-- Blanks, or nothing. -/
structure Gap where
  text : List Char
  blank : ∀ c ∈ text, isBlank c = true

/-- Tokens with the gap after each of them, and the gap before the first. -/
structure Layout where
  margin : Gap
  placed : List (Token × Gap)

namespace Layout

/-- The text of tokens with their gaps. -/
def written : List (Token × Gap) → List Char
  | [] => []
  | (token, gap) :: rest => token.spelling ++ (gap.text ++ written rest)

variable (layout : Layout)

/-- The text of a layout. -/
def text : String :=
  String.ofList (layout.margin.text ++ written layout.placed)

/-- The tokens of a layout. -/
def tokens : List Token :=
  layout.placed.map Prod.fst

/-- Between any two tokens there is a blank. -/
def Spread : Prop :=
  ∀ entry ∈ layout.placed.dropLast, entry.2.text ≠ []

end Layout

theorem Token.spelling_string (text : String) :
    Token.spelling ⟨.string, text⟩ = '"' :: (text.toList ++ ['"']) :=
  if_pos rfl

theorem Token.spelling_of_ne {kind : TokenKind} (other : kind ≠ .string) (text : String) :
    Token.spelling ⟨kind, text⟩ = text.toList :=
  if_neg other

/-! ## Symbols and keywords -/

theorem symbolOf?_name {c : Char} {kind : TokenKind} (symbol : symbolOf? c = some kind) :
    kind.name.toList = [c] := by
  revert symbol
  unfold symbolOf?
  split <;> intro symbol <;> cases symbol <;> rfl

theorem symbolWithEqual?_name {c : Char} {kind : TokenKind}
    (symbol : symbolWithEqual? c = some kind) : kind.name.toList = [c, '='] := by
  revert symbol
  unfold symbolWithEqual?
  split <;> intro symbol <;> cases symbol <;> rfl

/-- The kinds with one text are the keywords and the symbols of one and of two characters. -/
theorem TokenKind.of_text?_eq {kind : TokenKind} {text : String} (only : kind.text? = some text) :
    (text, kind) ∈ TokenKind.keywords ∨
      text = kind.name ∧ ∃ c, symbolOf? c = some kind ∨ symbolWithEqual? c = some kind := by
  have each : ∀ kind ∈ TokenKind.all, ∀ text ∈ kind.text?, (text, kind) ∈ TokenKind.keywords ∨
      text = kind.name ∧ (kind.name.toList.head?.bind symbolOf? = some kind ∨
        kind.name.toList.head?.bind symbolWithEqual? = some kind) := by
    decide
  rcases each kind (TokenKind.mem_all kind) text only with keyword | ⟨name, single | double⟩
  · exact .inl keyword
  · obtain ⟨c, -, symbol⟩ := Option.bind_eq_some_iff.mp single
    exact .inr ⟨name, c, .inl symbol⟩
  · obtain ⟨c, -, symbol⟩ := Option.bind_eq_some_iff.mp double
    exact .inr ⟨name, c, .inr symbol⟩

/-! ## Reading a layout -/

theorem Gap.scanAll_append (gap : Gap) (rest : List Char) :
    scanAll (gap.text ++ rest) = scanAll rest := by
  obtain ⟨text, blank⟩ := gap
  induction text with
  | nil => rfl
  | cons c text ih =>
      rw [List.forall_mem_cons] at blank
      rw [List.cons_append, scanAll_of_isBlank blank.1]
      exact ih blank.2

section Separated

variable {rest : List Char} (separated : ∀ c ∈ rest.head?, isBlank c = true)
include separated

theorem apart_of_separated : Apart rest := by
  cases rest with
  | nil => trivial
  | cons c rest =>
      have blank := separated c rfl
      rw [Apart, Bool.eq_false_iff]
      intro part
      rw [isBlank_of_isWordPart part] at blank
      cases blank

/-- A legal token is read as itself when a blank or the end of the text follows. -/
theorem Token.Legal.scanAll_spelling {token : Token} (legal : token.Legal) :
    scanAll (token.spelling ++ rest) = token :: scanAll rest := by
  have apart := apart_of_separated separated
  cases legal with
  | name isName =>
      rw [spelling_of_ne (by decide)]
      exact scanAll_of_isName isName apart
  | @fixed kind text only =>
      have other : kind ≠ .string := by
        rintro rfl
        cases only
      rw [spelling_of_ne other]
      rcases kind.of_text?_eq only with keyword | ⟨rfl, c, symbol | symbol⟩
      · exact scanAll_of_mem_keywords keyword apart
      · rw [symbolOf?_name symbol]
        refine scanAll_of_symbolOf? symbol (.inr fun equals => ?_)
        have blank := separated '=' equals
        cases blank
      · rw [symbolWithEqual?_name symbol]
        exact scanAll_of_symbolWithEqual? symbol rest
  | integer nonempty all =>
      rw [spelling_of_ne (by decide), scanAll_number nonempty (List.all_eq_true.mp all) apart,
        String.ofList_toList]
  | string unquoted =>
      rw [spelling_string, List.cons_append, List.append_assoc, List.singleton_append,
        scanAll_string unquoted, String.ofList_toList]

end Separated

namespace Layout

/-- Tokens that do not touch are read one by one. -/
theorem scanAll_written : ∀ {placed : List (Token × Gap)}, (∀ entry ∈ placed, entry.1.Legal) →
    (∀ entry ∈ placed.dropLast, entry.2.text ≠ []) →
      scanAll (written placed) = placed.map Prod.fst
  | [], _, _ => scanAll_eq_nil rfl
  | (token, gap) :: rest, legal, spread => by
    rw [List.forall_mem_cons] at legal
    have later : ∀ entry ∈ rest.dropLast, entry.2.text ≠ [] := by
      intro entry mem
      refine spread entry ?_
      rw [List.dropLast_cons_of_ne_nil (List.ne_nil_of_mem (List.dropLast_subset rest mem))]
      exact List.mem_cons_of_mem _ mem
    have separated : ∀ c ∈ (gap.text ++ written rest).head?, isBlank c = true := by
      intro c first
      cases whole : gap.text with
      | cons blank others =>
          rw [whole] at first
          cases first
          exact gap.blank c (by rw [whole]; exact List.mem_cons_self)
      | nil =>
          -- Only the last token may have no gap after it, and then the text ends.
          cases rest with
          | nil =>
              rw [whole] at first
              cases first
          | cons second rest => exact absurd whole (spread (token, gap) List.mem_cons_self)
    rw [written, legal.1.scanAll_spelling separated, gap.scanAll_append,
      scanAll_written legal.2 later, List.map_cons]

end Layout

/-- **Reading undoes writing tokens apart.** The tokens of any text are legal, or they are illegal
ones; and legal tokens that are written with blanks between them are read as exactly these tokens,
whatever blanks stand between them and at both ends. -/
theorem tokenize_layout :
    (∀ (text : String), ∀ token ∈ tokenize text, token.kind = .illegal ∨ token.Legal) ∧
      ∀ layout : Layout, (∀ token ∈ layout.tokens, token.Legal) → layout.Spread →
        tokenize layout.text = layout.tokens := by
  refine ⟨legal_tokenize, ?_⟩
  intro layout legal spread
  rw [Layout.tokens, List.forall_mem_map] at legal
  rw [tokenize, Layout.text, String.toList_ofList, layout.margin.scanAll_append,
    Layout.scanAll_written legal spread, Layout.tokens]

/-- Keywords beside words that begin with them, symbols that could be taken for one, a string with
what looks like tokens inside it, and a numeral with zeros before it. -/
def mixedLayout : Layout where
  margin := ⟨['\r', '\n'], by simp [isBlank]⟩
  placed :=
    [(⟨.letWord, "let"⟩, ⟨[' '], by simp [isBlank]⟩),
      (⟨.identifier, "letter_1"⟩, ⟨['\t'], by simp [isBlank]⟩),
      (.symbol .assign, ⟨[' '], by simp [isBlank]⟩),
      (.symbol .equal, ⟨['\n', ' '], by simp [isBlank]⟩),
      (.symbol .bang, ⟨[' '], by simp [isBlank]⟩),
      (.symbol .notEqual, ⟨[' '], by simp [isBlank]⟩),
      (⟨.string, "é == \n1 fn"⟩, ⟨[' ', '\t'], by simp [isBlank]⟩),
      (⟨.integer, "007"⟩, ⟨[], List.forall_mem_nil _⟩)]

theorem tokenize_layout_mixed :
    mixedLayout.Spread ∧ (∀ token ∈ mixedLayout.tokens, token.Legal) ∧
      tokenize "\r\nlet letter_1\t= ==\n ! != \"é == \n1 fn\" \t007" =
        [⟨.letWord, "let"⟩, ⟨.identifier, "letter_1"⟩, .symbol .assign, .symbol .equal,
          .symbol .bang, .symbol .notEqual, ⟨.string, "é == \n1 fn"⟩, ⟨.integer, "007"⟩] := by
  have spread : mixedLayout.Spread := by
    unfold Layout.Spread mixedLayout
    decide
  have legal : ∀ token ∈ mixedLayout.tokens, token.Legal := by
    simp only [mixedLayout, Layout.tokens, List.map_cons, List.map_nil, List.forall_mem_cons]
    refine ⟨.fixed rfl, .name (by decide), .fixed rfl, .fixed rfl, .fixed rfl, .fixed rfl,
      .string (by decide), .integer (by decide) (by decide), ?_⟩
    rintro _ ⟨⟩
  have text : mixedLayout.text = "\r\nlet letter_1\t= ==\n ! != \"é == \n1 fn\" \t007" := by
    decide
  have reads := tokenize_layout.2 mixedLayout legal spread
  rw [text] at reads
  exact ⟨spread, legal, reads⟩

end MonkeyLang
