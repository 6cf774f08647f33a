import Mathlib.Data.List.TakeWhile
import MonkeyLang.Proofs.Scanning.Coverage

/-!
# Texts joined together

A text that ends in a delimiter can be joined to any other text: the tokens of the one are
followed by the tokens of the other (`scanAll_append`). A delimiter is a token by itself
whatever follows it, so no token goes over the joint; only a string that is not closed
would, and such a text has an illegal token.
-/

set_option autoImplicit false

namespace MonkeyLang

/-- A character that is a token by itself, whatever follows it. -/
def isDelimiter (c : Char) : Bool :=
  (symbolOf? c).isSome && (symbolWithEqual? c).isNone

/-- The last character is a delimiter. -/
def Delimited (text : List Char) : Prop :=
  ∃ c ∈ text.getLast?, isDelimiter c = true

-- The last character is looked up: no search through all characters is wanted here.
instance (text : List Char) : Decidable (Delimited text) :=
  decidable_of_iff (text.getLast?.any isDelimiter = true) (Option.any_eq_true _ _)

/-- A delimiter is no blank and no part of a word or a number. -/
theorem of_isDelimiter {c : Char} (delimits : isDelimiter c = true) :
    isBlank c = false ∧ isWordPart c = false ∧ symbolWithEqual? c = none := by
  rw [isDelimiter, Bool.and_eq_true, Option.isSome_iff_exists, Option.isNone_iff_eq_none]
    at delimits
  obtain ⟨⟨kind, symbol⟩, single⟩ := delimits
  refine ⟨(scanFrom_of_symbolOf? symbol []).1, ?_, single⟩
  revert symbol
  unfold symbolOf?
  split <;> intro symbol <;> first | rfl | cases symbol

/-- Blanks and the characters of words and numbers are no delimiters. -/
theorem isDelimiter_eq_false {c : Char} (inside : isBlank c = true ∨ isWordPart c = true) :
    isDelimiter c = false := by
  rw [Bool.eq_false_iff]
  intro delimits
  obtain ⟨visible, apart, -⟩ := of_isDelimiter delimits
  rcases inside with blank | part
  · exact Bool.false_ne_true (visible.symm.trans blank)
  · exact Bool.false_ne_true (apart.symm.trans part)

theorem Delimited.of_suffix {text after : List Char} (delimited : Delimited text)
    (suffix : after <:+ text) (more : after ≠ []) : Delimited after := by
  obtain ⟨c, last, delimits⟩ := delimited
  refine ⟨c, ?_, delimits⟩
  rw [Option.mem_def, List.getLast?_eq_some_getLast more, suffix.getLast more,
    ← List.getLast?_eq_some_getLast]
  exact last

/-- A run that ends inside a text ends there before any other text too. -/
theorem run_append {p : Char → Bool} {text : List Char} (left : text.dropWhile p ≠ [])
    (rest : List Char) : (text ++ rest).takeWhile p = text.takeWhile p ∧
      (text ++ rest).dropWhile p = text.dropWhile p ++ rest := by
  have all : ∀ d ∈ text.takeWhile p, p d = true := fun _ mem => List.mem_takeWhile_imp mem
  have ends : ∀ d ∈ (text.dropWhile p ++ rest).head?, p d = false := by
    rw [List.head?_append, List.head?_eq_some_head left]
    exact fun d first => head?_dropWhile_eq_false d ((List.head?_eq_some_head left).trans first)
  have parts : text ++ rest = text.takeWhile p ++ (text.dropWhile p ++ rest) := by
    rw [← List.append_assoc, List.takeWhile_append_dropWhile]
  rw [parts]
  exact ⟨takeWhile_run all ends, dropWhile_run all ends⟩

/-- A run that takes no delimiter in ends inside a text that ends in one. -/
theorem Delimited.dropWhile_ne_nil {p : Char → Bool} {text : List Char}
    (delimited : Delimited text) (stops : ∀ c, isDelimiter c = true → p c = false) :
    text.dropWhile p ≠ [] := by
  obtain ⟨c, last, delimits⟩ := delimited
  intro none
  have taken := List.dropWhile_eq_nil_iff.mp none c (List.mem_of_getLast? last)
  exact Bool.false_ne_true ((stops c delimits).symm.trans taken)

/-- After its first character, which is no delimiter, a text that ends in a delimiter goes on. -/
theorem Delimited.tail {c : Char} {text : List Char} (delimited : Delimited (c :: text))
    (other : isDelimiter c = false) : Delimited text := by
  refine delimited.of_suffix (List.suffix_cons c text) ?_
  rintro rfl
  obtain ⟨_, ⟨⟩, delimits⟩ := delimited
  exact Bool.false_ne_true (other.symm.trans delimits)

/-- A string that is closed ends before the joint. -/
theorem scanString_append {text : List Char} (closed : (scanString text).1.kind ≠ .illegal)
    (rest : List Char) :
    scanString (text ++ rest) = ((scanString text).1, (scanString text).2 ++ rest) := by
  unfold scanString at closed ⊢
  cases left : text.dropWhile (· != '"') with
  | nil =>
      rw [left] at closed
      exact absurd rfl closed
  | cons quote after =>
      obtain ⟨run, others⟩ := run_append (left ▸ List.cons_ne_nil quote after) rest
      rw [run, others, left]
      rfl

/-- A symbol takes in the same before the joint, or it is a delimiter and takes nothing in. -/
theorem scanSymbol_append {c : Char} {text : List Char} (delimited : Delimited (c :: text))
    (rest : List Char) :
    scanSymbol c (text ++ rest) = ((scanSymbol c text).1, (scanSymbol c text).2 ++ rest) := by
  unfold scanSymbol
  cases double : symbolWithEqual? c with
  | none => cases symbolOf? c <;> rfl
  | some kind =>
      have other : isDelimiter c = false := by
        rw [isDelimiter, double, Option.isNone_some, Bool.and_false]
      obtain ⟨d, last, -⟩ := delimited.tail other
      obtain ⟨e, others, rfl⟩ := List.exists_cons_of_ne_nil
        (List.ne_nil_of_mem (List.mem_of_getLast? last))
      by_cases equals : e = '='
      · subst equals
        rfl
      · cases symbolOf? c <;> simp [equals]

theorem scanFrom_append {c : Char} {text : List Char} (delimited : Delimited (c :: text))
    (legal : (scanFrom c text).1.kind ≠ .illegal) (rest : List Char) :
    scanFrom c (text ++ rest) = ((scanFrom c text).1, (scanFrom c text).2 ++ rest) := by
  have apart : isWordPart c = true → Delimited text :=
    fun part => delimited.tail (isDelimiter_eq_false (.inr part))
  unfold scanFrom at legal ⊢
  by_cases word : isWordStart c = true
  · have left := (apart (isWordPart_of_isWordStart word)).dropWhile_ne_nil
      fun d delimits => (of_isDelimiter delimits).2.1
    obtain ⟨run, others⟩ := run_append left rest
    simp only [if_pos word, run, others]
  rw [if_neg word] at legal ⊢
  rw [if_neg word]
  by_cases digit : c.isDigit = true
  · have left := (apart (by rw [isWordPart, digit, Bool.or_true])).dropWhile_ne_nil
      fun d delimits => (Bool.or_eq_false_iff.mp (of_isDelimiter delimits).2.1).2
    obtain ⟨run, others⟩ := run_append left rest
    simp only [if_pos digit, run, others]
  rw [if_neg digit] at legal ⊢
  rw [if_neg digit]
  by_cases quote : (c == '"') = true
  · rw [if_pos quote] at legal ⊢
    rw [if_pos quote]
    exact scanString_append legal rest
  · rw [if_neg quote, if_neg quote]
    exact scanSymbol_append delimited rest

/-- The first token of a text that ends in a delimiter is the first one of every text that begins
with it. -/
theorem scan_append {text after : List Char} {token : Token} (delimited : Delimited text)
    (found : scan text = some (token, after)) (legal : token.kind ≠ .illegal)
    (rest : List Char) : scan (text ++ rest) = some (token, after ++ rest) := by
  induction text with
  | nil => cases found
  | cons c text ih =>
      rw [List.cons_append]
      rw [scan] at found ⊢
      split at found
      · next blank =>
        rw [if_pos blank]
        exact ih (delimited.tail (isDelimiter_eq_false (.inl blank))) found
      · next visible =>
        have same : scanFrom c text = (token, after) := Option.some.inj found
        have scanned := scanFrom_append delimited (by rwa [same]) rest
        rw [if_neg visible, scanned, same]

/-- **The tokens of texts that are joined.** A text that ends in a delimiter and has no illegal
token is read before any text as it is read alone. -/
theorem scanAll_append {text : List Char} (delimited : Delimited text)
    (legal : ∀ token ∈ scanAll text, token.kind ≠ .illegal) (rest : List Char) :
    scanAll (text ++ rest) = scanAll text ++ scanAll rest := by
  cases found : scan text with
  | none =>
      obtain ⟨c, last, delimits⟩ := delimited
      have blank := blank_of_scan found c (List.mem_of_getLast? last)
      exact absurd ((isDelimiter_eq_false (.inl blank)).symm.trans delimits) Bool.false_ne_true
  | some next =>
      obtain ⟨token, after⟩ := next
      have _shorter := scan_length_lt found
      rw [scanAll_eq_cons found, List.forall_mem_cons] at legal
      rw [scanAll_eq_cons found, scanAll_eq_cons (scan_append delimited found legal.1 rest),
        List.cons_append]
      by_cases ended : after = []
      · have nothing : scanAll [] = [] := scanAll_eq_nil rfl
        rw [ended, nothing]
        rfl
      · obtain ⟨gap, visible, rfl, rfl, -⟩ := takenOff_scan found
        have suffix : after <:+ gap.text ++ (token.spelling ++ after) :=
          (List.suffix_append _ _).trans (List.suffix_append _ _)
        rw [scanAll_append (delimited.of_suffix suffix ended) legal.2 rest]
termination_by text.length

end MonkeyLang
