import MonkeyLang.Token

/-!
# Reading text as tokens

Blanks separate tokens and are dropped.  At every other character the longest
token that starts there is taken: a word runs over letters, digits and
underscores, a number over digits, a string to the next quote, and `=` and `!`
take a following `=` with them.  A quote that is never closed turns the rest of
the text into one illegal token; any other character that starts no token is an
illegal token by itself.  Letters and digits are the ASCII ones.

Every token takes at least one character (`scan_length_lt`), so reading ends.
-/

set_option autoImplicit false

namespace MonkeyLang

/-! ## Character classes -/

/-- The characters that separate tokens. -/
def isBlank (c : Char) : Bool :=
  c == ' ' || c == '\t' || c == '\r' || c == '\n'

/-- The characters that a word can start with. -/
def isWordStart (c : Char) : Bool :=
  c.isAlpha || c == '_'

/-- The characters that a word can go on with. -/
def isWordPart (c : Char) : Bool :=
  isWordStart c || c.isDigit

/-- The symbol that a single character spells. -/
def symbolOf? : Char → Option TokenKind
  | '=' => some .assign
  | '+' => some .plus
  | '-' => some .minus
  | '!' => some .bang
  | '*' => some .asterisk
  | '/' => some .slash
  | '<' => some .less
  | '>' => some .greater
  | ',' => some .comma
  | ';' => some .semicolon
  | ':' => some .colon
  | '(' => some .leftParen
  | ')' => some .rightParen
  | '{' => some .leftBrace
  | '}' => some .rightBrace
  | '[' => some .leftBracket
  | ']' => some .rightBracket
  | _ => none

/-- The symbol that a character spells together with a following `=`. -/
def symbolWithEqual? : Char → Option TokenKind
  | '=' => some .equal
  | '!' => some .notEqual
  | _ => none

/-! ## One token -/

/-- The string that starts after an opening quote, and the text after its closing quote. -/
def scanString (rest : List Char) : Token × List Char :=
  match rest.dropWhile (· != '"') with
  | [] => (⟨.illegal, String.ofList ('"' :: rest)⟩, [])
  | _ :: after => (⟨.string, String.ofList (rest.takeWhile (· != '"'))⟩, after)

/-- The symbol or the illegal token that starts with the character `c`, and the text after it. -/
def scanSymbol (c : Char) (rest : List Char) : Token × List Char :=
  match symbolWithEqual? c, rest with
  | some kind, '=' :: after => (.symbol kind, after)
  | _, _ =>
    match symbolOf? c with
    | some kind => (.symbol kind, rest)
    | none => (⟨.illegal, String.ofList [c]⟩, rest)

/-- The token that starts with the character `c`, which is no blank, and the text after it. -/
def scanFrom (c : Char) (rest : List Char) : Token × List Char :=
  if isWordStart c then
    (.word (String.ofList (c :: rest.takeWhile isWordPart)), rest.dropWhile isWordPart)
  else if c.isDigit then
    (⟨.integer, String.ofList (c :: rest.takeWhile Char.isDigit)⟩, rest.dropWhile Char.isDigit)
  else if c == '"' then
    scanString rest
  else
    scanSymbol c rest

/-- The first token of a text and the text after it; `none` if only blanks are left. -/
def scan : List Char → Option (Token × List Char)
  | [] => none
  | c :: rest => if isBlank c then scan rest else some (scanFrom c rest)

/-! ## Every token takes text -/

theorem length_dropWhile_le (p : Char → Bool) (text : List Char) :
    (text.dropWhile p).length ≤ text.length :=
  (List.dropWhile_suffix p).length_le

theorem scanString_length_le (rest : List Char) : (scanString rest).2.length ≤ rest.length := by
  unfold scanString
  have := length_dropWhile_le (· != '"') rest
  split
  · simp
  · next after eq => simp only [eq, List.length_cons] at this ⊢; omega

theorem scanSymbol_length_le (c : Char) (rest : List Char) :
    (scanSymbol c rest).2.length ≤ rest.length := by
  unfold scanSymbol
  split
  · simp
  · split <;> simp

theorem scanFrom_length_le (c : Char) (rest : List Char) :
    (scanFrom c rest).2.length ≤ rest.length := by
  unfold scanFrom
  split
  · exact length_dropWhile_le isWordPart rest
  · split
    · exact length_dropWhile_le Char.isDigit rest
    · split
      · exact scanString_length_le rest
      · exact scanSymbol_length_le c rest

/-- The text after a token is shorter than the text it was read from. -/
theorem scan_length_lt {text rest : List Char} {token : Token}
    (found : scan text = some (token, rest)) : rest.length < text.length := by
  induction text with
  | nil => simp [scan] at found
  | cons c tail ih =>
    rw [scan] at found
    split at found
    · have := ih found
      simp only [List.length_cons]
      omega
    · have length_le := scanFrom_length_le c tail
      simp only [Option.some.injEq] at found
      simp only [found, List.length_cons] at length_le ⊢
      omega

/-! ## All tokens -/

/-- The tokens of a list of characters. -/
def scanAll (text : List Char) : List Token :=
  match found : scan text with
  | none => []
  | some (token, rest) =>
    have _shorter : rest.length < text.length := scan_length_lt found
    token :: scanAll rest
termination_by text.length

/-- A text of blanks has no tokens. -/
theorem scanAll_eq_nil {text : List Char} (found : scan text = none) : scanAll text = [] := by
  rw [scanAll]
  split <;> simp_all

/-- The tokens of a text are its first token and the tokens of what follows. -/
theorem scanAll_eq_cons {text rest : List Char} {token : Token}
    (found : scan text = some (token, rest)) : scanAll text = token :: scanAll rest := by
  rw [scanAll]
  split <;> simp_all

/-- The tokens of a text. -/
def tokenize (text : String) : List Token :=
  scanAll text.toList

/-- The next token of a text and the text after it; past the last token the end stays. -/
def nextToken (text : List Char) : Token × List Char :=
  (scan text).getD (.endOfInput, [])

/-- The first `count` tokens drawn from a text one by one, the end of the input included. -/
def drawTokens : Nat → List Char → List Token
  | 0, _ => []
  | count + 1, text =>
    let (token, rest) := nextToken text
    token :: drawTokens count rest

end MonkeyLang
