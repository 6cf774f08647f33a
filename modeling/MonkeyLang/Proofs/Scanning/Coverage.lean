import MonkeyLang.Proofs.Scanning.Layout

/-!
# Every text is laid out as its tokens

Reading a text neither loses nor adds a character. Written out one after the other, the
tokens of the text are the text, but for blanks; and every token ends where it has to:
a word before a character that is no part of a word, a number before one that is no
digit, and `=` and `!` before one that is no equals sign (`tokenize_covers`). Letters
and digits are the ASCII ones.

One step of reading takes one token off the text with the blanks before it
(`takenOff_scan`), and a layout of what is left is extended by that token. A reader that
draws tokens one by one is given the same tokens, and from then on the end of the input.
-/

set_option autoImplicit false

namespace MonkeyLang

/-! ## Where tokens end -/

/-- The kinds that a word can have: it is an identifier or a keyword. -/
def TokenKind.words : List TokenKind :=
  .identifier :: TokenKind.keywords.map Prod.snd

/-- The token could not have taken in the first character of the text after it. -/
structure Token.EndsAt (token : Token) (rest : List Char) : Prop where
  word : token.kind ∈ TokenKind.words → ∀ c ∈ rest.head?, isWordPart c = false
  integer : token.kind = .integer → ∀ c ∈ rest.head?, c.isDigit = false
  symbol : token.kind = .assign ∨ token.kind = .bang → rest.head? ≠ some '='

theorem TokenKind.ofWord_mem_words (word : String) : TokenKind.ofWord word ∈ TokenKind.words := by
  rw [TokenKind.ofWord]
  cases found : TokenKind.keywords.lookup word with
  | none => exact List.mem_cons_self
  | some kind =>
      exact List.mem_cons_of_mem _ (List.mem_map_of_mem (TokenKind.mem_keywords_of_lookup found))

/-- Words are no strings, no numbers, no symbols and not illegal. -/
theorem TokenKind.of_mem_words {kind : TokenKind} (word : kind ∈ TokenKind.words) :
    kind ≠ .string ∧ kind ≠ .integer ∧ kind ≠ .illegal ∧ kind.text? ≠ some kind.name := by
  have each : ∀ kind ∈ TokenKind.words,
      kind ≠ .string ∧ kind ≠ .integer ∧ kind ≠ .illegal ∧ kind.text? ≠ some kind.name := by
    decide
  exact each kind word

namespace Token

theorem endsAt_word {literal : String} {rest : List Char}
    (ends : ∀ c ∈ rest.head?, isWordPart c = false) : (Token.word literal).EndsAt rest := by
  have word : (Token.word literal).kind ∈ TokenKind.words := TokenKind.ofWord_mem_words literal
  refine ⟨fun _ => ends, fun integer => absurd integer (TokenKind.of_mem_words word).2.1, ?_⟩
  intro symbol
  rcases symbol with symbol | symbol <;>
    exact absurd (by rw [symbol]; rfl) (TokenKind.of_mem_words word).2.2.2

theorem endsAt_integer {literal : String} {rest : List Char}
    (ends : ∀ c ∈ rest.head?, c.isDigit = false) : Token.EndsAt ⟨.integer, literal⟩ rest :=
  ⟨fun word => absurd rfl (TokenKind.of_mem_words word).2.1, fun _ => ends,
    by rintro (⟨⟨⟩⟩ | ⟨⟨⟩⟩)⟩

/-- Strings end at their quotes, and an illegal token can end anywhere. -/
theorem endsAt_string (literal : String) (rest : List Char) :
    Token.EndsAt ⟨.string, literal⟩ rest :=
  ⟨fun word => absurd rfl (TokenKind.of_mem_words word).1, by rintro ⟨⟩,
    by rintro (⟨⟨⟩⟩ | ⟨⟨⟩⟩)⟩

theorem endsAt_illegal (literal : String) (rest : List Char) :
    Token.EndsAt ⟨.illegal, literal⟩ rest :=
  ⟨fun word => absurd rfl (TokenKind.of_mem_words word).2.2.1, by rintro ⟨⟩,
    by rintro (⟨⟨⟩⟩ | ⟨⟨⟩⟩)⟩

section Symbol

variable {kind : TokenKind} (fixed : kind.text? = some kind.name)
include fixed

theorem spelling_symbol : (Token.symbol kind).spelling = kind.name.toList := by
  refine spelling_of_ne ?_ _
  rintro rfl
  cases fixed

theorem endsAt_symbol {rest : List Char}
    (single : kind = .assign ∨ kind = .bang → rest.head? ≠ some '=') :
    (Token.symbol kind).EndsAt rest := by
  refine ⟨fun word => absurd fixed (TokenKind.of_mem_words word).2.2.2, ?_, single⟩
  rintro rfl
  cases fixed

end Symbol

end Token

/-! ## One token is taken off -/

theorem head?_dropWhile_eq_false {p : Char → Bool} {rest : List Char} :
    ∀ c ∈ (rest.dropWhile p).head?, p c = false := by
  intro c first
  have ends := List.head?_dropWhile_not p rest
  rw [Option.mem_def.mp first] at ends
  simpa using ends

/-- The token was written at the beginning of the text, and it ended where it had to. -/
def Token.TakenOff (token : Token) (text rest : List Char) : Prop :=
  text = token.spelling ++ rest ∧ token.EndsAt rest

theorem takenOff_scanString (rest : List Char) :
    (scanString rest).1.TakenOff ('"' :: rest) (scanString rest).2 := by
  unfold scanString
  split
  · refine ⟨?_, Token.endsAt_illegal _ _⟩
    rw [Token.spelling_of_ne (by decide), String.toList_ofList, List.append_nil]
  · next quote after found =>
    have closes : quote = '"' := by
      have other := head?_dropWhile_eq_false quote (by rw [found]; rfl)
      simpa using other
    subst closes
    refine ⟨?_, Token.endsAt_string _ _⟩
    rw [Token.spelling_string, String.toList_ofList, List.cons_append, List.append_assoc,
      List.singleton_append, ← found, List.takeWhile_append_dropWhile]

theorem takenOff_scanSymbol (c : Char) (rest : List Char) :
    (scanSymbol c rest).1.TakenOff (c :: rest) (scanSymbol c rest).2 := by
  unfold scanSymbol
  split
  · next kind after double =>
    have fixed := symbolWithEqual?_text? double
    have name := symbolWithEqual?_name double
    refine ⟨?_, Token.endsAt_symbol fixed ?_⟩
    · rw [Token.spelling_symbol fixed, name]
      rfl
    · rintro (rfl | rfl) <;> cases name
  · next single =>
    split
    · next kind symbol =>
      have fixed := symbolOf?_text? symbol
      have name := symbolOf?_name symbol
      refine ⟨?_, Token.endsAt_symbol fixed ?_⟩
      · rw [Token.spelling_symbol fixed, name]
        rfl
      · -- The character would have taken the equals sign in.
        intro taking equals
        obtain ⟨after, rfl⟩ := List.head?_eq_some_iff.mp equals
        rcases taking with rfl | rfl <;> cases name <;> exact single _ _ rfl rfl
    · refine ⟨?_, Token.endsAt_illegal _ _⟩
      rw [Token.spelling_of_ne (by decide), String.toList_ofList]
      rfl

theorem takenOff_scanFrom (c : Char) (rest : List Char) :
    (scanFrom c rest).1.TakenOff (c :: rest) (scanFrom c rest).2 := by
  unfold scanFrom
  split
  · refine ⟨?_, Token.endsAt_word head?_dropWhile_eq_false⟩
    have word := TokenKind.of_mem_words
      (TokenKind.ofWord_mem_words (String.ofList (c :: rest.takeWhile isWordPart)))
    rw [Token.word, Token.spelling_of_ne word.1, String.toList_ofList, List.cons_append,
      List.takeWhile_append_dropWhile]
  · split
    · refine ⟨?_, Token.endsAt_integer head?_dropWhile_eq_false⟩
      rw [Token.spelling_of_ne (by decide), String.toList_ofList, List.cons_append,
        List.takeWhile_append_dropWhile]
    · split
      · next quote =>
        rw [beq_iff_eq.mp quote]
        exact takenOff_scanString rest
      · exact takenOff_scanSymbol c rest

/-- **Reading a token takes it off the text, with the blanks before it.** -/
theorem takenOff_scan {text rest : List Char} {token : Token}
    (found : scan text = some (token, rest)) :
    ∃ (gap : Gap) (visible : List Char), text = gap.text ++ visible ∧
      token.TakenOff visible rest := by
  induction text with
  | nil => cases found
  | cons c tail ih =>
      rw [scan] at found
      split at found
      · next blank =>
        obtain ⟨gap, visible, rfl, takenOff⟩ := ih found
        exact ⟨⟨c :: gap.text, List.forall_mem_cons.mpr ⟨blank, gap.blank⟩⟩, visible, rfl, takenOff⟩
      · have same : scanFrom c tail = (token, rest) := Option.some.inj found
        have takenOff := takenOff_scanFrom c tail
        rw [same] at takenOff
        exact ⟨⟨[], fun _ mem => absurd mem List.not_mem_nil⟩, c :: tail, rfl, takenOff⟩

/-- A text without tokens is a gap. -/
theorem blank_of_scan {text : List Char} (found : scan text = none) :
    ∀ c ∈ text, isBlank c = true := by
  induction text with
  | nil => exact fun _ mem => absurd mem List.not_mem_nil
  | cons c tail ih =>
      rw [scan] at found
      split at found
      · next blank => exact List.forall_mem_cons.mpr ⟨blank, ih found⟩
      · cases found

/-! ## All tokens -/

/-- Every token of a layout ends where it has to. -/
def Layout.Maximal (layout : Layout) : Prop :=
  ∀ (before : List (Token × Gap)) (token : Token) (gap : Gap) (after : List (Token × Gap)),
    layout.placed = before ++ (token, gap) :: after →
      token.EndsAt (gap.text ++ Layout.written after)

/-- A token before a layout. -/
theorem Layout.Maximal.cons {layout : Layout} (maximal : layout.Maximal) (gap : Gap)
    {token : Token} (ends : token.EndsAt (layout.margin.text ++ Layout.written layout.placed)) :
    Layout.Maximal ⟨gap, (token, layout.margin) :: layout.placed⟩ := by
  intro before token' gap' after placed
  rcases List.cons_eq_append_iff.mp placed with ⟨rfl, same⟩ | ⟨others, rfl, same⟩
  · cases same
    exact ends
  · exact maximal others token' gap' after same

theorem exists_layout (text : List Char) :
    ∃ layout : Layout, layout.margin.text ++ Layout.written layout.placed = text ∧
      layout.tokens = scanAll text ∧ layout.Maximal := by
  cases found : scan text with
  | none =>
      refine ⟨⟨⟨text, blank_of_scan found⟩, []⟩, List.append_nil text, ?_, ?_⟩
      · rw [scanAll_eq_nil found]
        rfl
      · intro before token gap after placed
        exact absurd placed.symm (List.append_ne_nil_of_right_ne_nil _ (List.cons_ne_nil _ _))
  | some next =>
      obtain ⟨token, rest⟩ := next
      have _shorter := scan_length_lt found
      obtain ⟨gap, visible, rfl, written, ends⟩ := takenOff_scan found
      obtain ⟨layout, rfl, tokens, maximal⟩ := exists_layout rest
      refine ⟨⟨gap, (token, layout.margin) :: layout.placed⟩, ?_, ?_, maximal.cons gap ends⟩
      · rw [written, Layout.written]
      · rw [scanAll_eq_cons found, ← tokens]
        rfl
termination_by text.length

/-- Tokens that are drawn one by one are the tokens of the text, and then the end of the input. -/
theorem drawTokens_eq (count : Nat) (text : List Char) :
    drawTokens count text = (scanAll text).take count ++
      List.replicate (count - (scanAll text).length) Token.endOfInput := by
  induction count generalizing text with
  | zero => simp [drawTokens]
  | succ count ih =>
      cases found : scan text with
      | none =>
          have ended : scanAll [] = [] := scanAll_eq_nil rfl
          simp [drawTokens, nextToken, found, ih, scanAll_eq_nil found, ended,
            List.replicate_succ]
      | some next =>
          obtain ⟨token, rest⟩ := next
          simp [drawTokens, nextToken, found, ih, scanAll_eq_cons found]

/-- **Reading a text neither loses nor adds a character.** Every text is a layout of its tokens: all
characters outside of them are blanks, and every token ends where it has to. Drawing tokens one by
one gives the same tokens and then the end of the input, as often as one likes. -/
theorem tokenize_covers (source : String) :
    (∃ layout : Layout, layout.text = source ∧ layout.tokens = tokenize source ∧
      layout.Maximal) ∧
    ∀ count, drawTokens count source.toList = (tokenize source).take count ++
      List.replicate (count - (tokenize source).length) Token.endOfInput := by
  refine ⟨?_, fun count => drawTokens_eq count source.toList⟩
  obtain ⟨layout, text, tokens, maximal⟩ := exists_layout source.toList
  refine ⟨layout, ?_, tokens, maximal⟩
  rw [Layout.text, text, String.ofList_toList]

/-- Words and symbols need no blanks between them, and a quote that is never closed is illegal with
all the text after it. -/
example : tokenize "ab1==!x\"y" =
    [⟨.identifier, "ab1"⟩, .symbol .equal, .symbol .bang, ⟨.identifier, "x"⟩,
      ⟨.illegal, "\"y"⟩] := by cbv

end MonkeyLang
