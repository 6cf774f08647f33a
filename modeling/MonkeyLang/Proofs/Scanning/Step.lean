import MonkeyLang.Decimal
import MonkeyLang.Proofs.Rendering.Renderable

/-!
# Scanning past one token

What the tokens of a text are when the text begins with a token of a known
class: that token, and the tokens of what follows. Blanks add nothing. A word
and a number have to be followed by a character that would not belong to them,
and a symbol that can take an equals sign in by one that is none.
-/

set_option autoImplicit false

namespace MonkeyLang

/-! ## Classes of characters -/

/-- No character that a word can go on with comes first. -/
def Apart : List Char → Prop
  | [] => True
  | c :: _ => isWordPart c = false

/-- Words and numbers begin with different characters. -/
theorem isWordStart_of_isDigit {c : Char} (digit : c.isDigit = true) : isWordStart c = false := by
  obtain ⟨-, atMost⟩ := Char.isDigit_iff_toNat.mp digit
  -- All letters come after the last digit.
  have before : ∀ letter : Char, '9'.toNat < letter.toNat → ¬ letter.val ≤ c.val := by
    intro letter after le
    exact Nat.lt_irrefl _
      (Nat.lt_of_lt_of_le after (Nat.le_trans (UInt32.le_iff_toNat_le.mp le) atMost))
  have upper : c.isUpper = false := decide_eq_false fun inside => before 'A' (by decide) inside.1
  have lower : c.isLower = false :=
    Bool.and_eq_false_imp.mpr fun le => absurd (of_decide_eq_true le) (before 'a' (by decide))
  have alpha : c.isAlpha = false := Bool.or_eq_false_iff.mpr ⟨upper, lower⟩
  have underscore : (c == '_') = false := by
    rw [beq_eq_false_iff_ne]
    rintro rfl
    cases digit
  rw [isWordStart, alpha, underscore]
  rfl

theorem isWordPart_of_isWordStart {c : Char} (start : isWordStart c = true) :
    isWordPart c = true := by
  rw [isWordPart, start, Bool.true_or]

/-- No blank belongs to a word or a number. -/
theorem isBlank_of_isWordPart {c : Char} (part : isWordPart c = true) : isBlank c = false := by
  rw [Bool.eq_false_iff]
  intro blank
  simp only [isBlank, Bool.or_eq_true, beq_iff_eq] at blank
  rcases blank with ((rfl | rfl) | rfl) | rfl <;> cases part

/-- A symbol is spelled by a character that begins nothing else. -/
theorem scanFrom_of_symbolOf? {c : Char} {kind : TokenKind} (symbol : symbolOf? c = some kind)
    (rest : List Char) : isBlank c = false ∧ scanFrom c rest = scanSymbol c rest := by
  revert symbol
  unfold symbolOf?
  split <;> intro symbol <;> cases symbol <;> exact ⟨rfl, rfl⟩

section Runs

variable {p : Char → Bool} {run rest : List Char}

theorem takeWhile_run (all : ∀ c ∈ run, p c = true) (ends : ∀ c ∈ rest.head?, p c = false) :
    (run ++ rest).takeWhile p = run := by
  rw [List.takeWhile_append_of_pos all]
  cases rest with
  | nil => simp
  | cons c rest => simp [ends c rfl]

theorem dropWhile_run (all : ∀ c ∈ run, p c = true) (ends : ∀ c ∈ rest.head?, p c = false) :
    (run ++ rest).dropWhile p = rest := by
  rw [List.dropWhile_append_of_pos all]
  cases rest with
  | nil => rfl
  | cons c rest => simp [ends c rfl]

end Runs

theorem Apart.isWordPart {rest : List Char} (apart : Apart rest) :
    ∀ c ∈ rest.head?, isWordPart c = false := by
  intro c first
  cases rest with
  | nil => cases first
  | cons head rest =>
      cases first
      exact apart

theorem Apart.isDigit {rest : List Char} (apart : Apart rest) :
    ∀ c ∈ rest.head?, c.isDigit = false := by
  intro c first
  have part := apart.isWordPart c first
  rw [MonkeyLang.isWordPart, Bool.or_eq_false_iff] at part
  exact part.2

/-! ## One token and the rest -/

theorem scanAll_of_isBlank {c : Char} (blank : isBlank c = true) (rest : List Char) :
    scanAll (c :: rest) = scanAll rest := by
  have same : scan (c :: rest) = scan rest := if_pos blank
  cases found : scan rest with
  | none => rw [scanAll_eq_nil found, scanAll_eq_nil (same.trans found)]
  | some next => rw [scanAll_eq_cons found, scanAll_eq_cons (same.trans found)]

theorem scanAll_of_scanFrom {c : Char} {rest after : List Char} {token : Token}
    (visible : isBlank c = false) (scans : scanFrom c rest = (token, after)) :
    scanAll (c :: rest) = token :: scanAll after := by
  refine scanAll_eq_cons ?_
  rw [scan, visible, scans]
  rfl

/-- A symbol is a token by itself unless it takes in an equals sign. -/
theorem scanAll_of_symbolOf? {c : Char} {kind : TokenKind} (symbol : symbolOf? c = some kind)
    {rest : List Char} (single : symbolWithEqual? c = none ∨ rest.head? ≠ some '=') :
    scanAll (c :: rest) = .symbol kind :: scanAll rest := by
  obtain ⟨visible, scans⟩ := scanFrom_of_symbolOf? symbol rest
  refine scanAll_of_scanFrom visible (scans.trans ?_)
  unfold scanSymbol
  split
  · next both =>
    rcases single with none | other
    · rw [none] at both
      cases both
    · exact absurd rfl other
  · rw [symbol]

theorem scanAll_of_symbolWithEqual? {c : Char} {kind : TokenKind}
    (symbol : symbolWithEqual? c = some kind) (rest : List Char) :
    scanAll (c :: '=' :: rest) = .symbol kind :: scanAll rest := by
  revert symbol
  unfold symbolWithEqual?
  split <;> intro symbol <;> cases symbol <;> exact scanAll_of_scanFrom rfl rfl

/-- A word is a token when it stands apart from what follows. -/
theorem scanAll_word {first : Char} {word rest : List Char} (start : isWordStart first = true)
    (parts : ∀ c ∈ word, isWordPart c = true) (apart : Apart rest) :
    scanAll (first :: (word ++ rest)) =
      .word (String.ofList (first :: word)) :: scanAll rest := by
  have visible : isBlank first = false :=
    isBlank_of_isWordPart (isWordPart_of_isWordStart start)
  refine scanAll_of_scanFrom visible ?_
  rw [scanFrom, if_pos start, takeWhile_run parts apart.isWordPart,
    dropWhile_run parts apart.isWordPart]

theorem scanAll_of_word {word : String} (start : word.toList.head?.any isWordStart = true)
    (parts : word.toList.all isWordPart = true) {rest : List Char} (apart : Apart rest) :
    scanAll (word.toList ++ rest) = .word word :: scanAll rest := by
  cases whole : word.toList with
  | nil =>
      rw [whole] at start
      cases start
  | cons first others =>
      rw [whole, List.all_cons, Bool.and_eq_true, List.all_eq_true] at parts
      rw [whole] at start
      rw [List.cons_append, scanAll_word start parts.2 apart, ← whole, String.ofList_toList]

theorem scanAll_of_isName {name : String} (isName : IsName name) {rest : List Char}
    (apart : Apart rest) :
    scanAll (name.toList ++ rest) = ⟨.identifier, name⟩ :: scanAll rest := by
  obtain ⟨start, parts, kind⟩ := isName
  rw [scanAll_of_word start parts apart, Token.word, kind]

theorem scanAll_of_mem_keywords {keyword : String} {kind : TokenKind}
    (mem : (keyword, kind) ∈ TokenKind.keywords) {rest : List Char} (apart : Apart rest) :
    scanAll (keyword.toList ++ rest) = ⟨kind, keyword⟩ :: scanAll rest := by
  have word : ∀ entry ∈ TokenKind.keywords, entry.1.toList.head?.any isWordStart = true ∧
      entry.1.toList.all isWordPart = true ∧ TokenKind.ofWord entry.1 = entry.2 := by
    decide
  obtain ⟨start, parts, same⟩ := word _ mem
  rw [scanAll_of_word start parts apart, Token.word, same]

/-- A number is a token when it stands apart from what follows. -/
theorem scanAll_number {digits rest : List Char} (nonempty : digits ≠ [])
    (all : ∀ c ∈ digits, c.isDigit = true) (apart : Apart rest) :
    scanAll (digits ++ rest) = ⟨.integer, String.ofList digits⟩ :: scanAll rest := by
  cases digits with
  | nil => exact absurd rfl nonempty
  | cons first digits =>
      have digit : first.isDigit = true := all first List.mem_cons_self
      have others : ∀ c ∈ digits, c.isDigit = true := fun c mem => all c (List.mem_cons_of_mem _ mem)
      have visible : isBlank first = false :=
        isBlank_of_isWordPart (by rw [isWordPart, digit, Bool.or_true])
      rw [List.cons_append]
      refine scanAll_of_scanFrom visible ?_
      rw [scanFrom, isWordStart_of_isDigit digit, if_neg Bool.false_ne_true, if_pos digit,
        takeWhile_run others apart.isDigit, dropWhile_run others apart.isDigit]

/-- A text without quotes between two quotes is a string. -/
theorem scanAll_string {text : List Char} (unquoted : '"' ∉ text) (rest : List Char) :
    scanAll ('"' :: (text ++ '"' :: rest)) = ⟨.string, String.ofList text⟩ :: scanAll rest := by
  have all : ∀ c ∈ text, (c != '"') = true := by
    intro c mem
    rw [bne_iff_ne]
    rintro rfl
    exact unquoted mem
  have ends : ∀ c ∈ ('"' :: rest).head?, (c != '"') = false := by
    rintro c ⟨⟩
    rfl
  refine scanAll_of_scanFrom rfl ?_
  rw [scanFrom, if_neg (by decide), if_neg (by decide), if_pos (by decide), scanString,
    takeWhile_run all ends, dropWhile_run all ends]

/-! ## What all tokens have in common -/

section Common

variable {property : Token → Prop} (each : ∀ c rest, property (scanFrom c rest).1)
include each

/-- The first token of a text is the one that starts at the first character that is no blank. -/
theorem property_of_scan {text rest : List Char} {token : Token}
    (found : scan text = some (token, rest)) : property token := by
  induction text with
  | nil => cases found
  | cons c tail ih =>
      rw [scan] at found
      split at found
      · exact ih found
      · have same : (scanFrom c tail).1 = token := congrArg Prod.fst (Option.some.inj found)
        exact same ▸ each c tail

theorem forall_mem_scanAll (text : List Char) : ∀ token ∈ scanAll text, property token := by
  cases found : scan text with
  | none =>
      rw [scanAll_eq_nil found]
      rintro _ ⟨⟩
  | some next =>
      obtain ⟨first, rest⟩ := next
      have _shorter := scan_length_lt found
      rw [scanAll_eq_cons found, List.forall_mem_cons]
      exact ⟨property_of_scan each found, forall_mem_scanAll rest⟩
termination_by text.length

/-- What holds of every token that starts at a character holds of all tokens of a text. -/
theorem forall_mem_tokenize (text : String) : ∀ token ∈ tokenize text, property token :=
  forall_mem_scanAll each text.toList

end Common

end MonkeyLang
