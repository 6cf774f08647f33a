/-!
# Tokens

A source text is read as a list of tokens.  A token has a kind and a literal:
the characters it was written with, or, for a string, the characters between
its quotes.  Kinds fall into three groups: classes that cover many spellings
(identifiers, integers, strings), symbols, which have one spelling that is also
their name, and keywords, which are words taken out of the class of
identifiers.  Two further kinds stand for text that is no token and for the end
of the input.
-/

set_option autoImplicit false

namespace MonkeyLang

/-! ## Kinds -/

/-- What sort of token a piece of text is. -/
inductive TokenKind where
  | illegal
  | endOfInput
  | identifier
  | integer
  | string
  | assign
  | plus
  | minus
  | bang
  | asterisk
  | slash
  | less
  | greater
  | equal
  | notEqual
  | comma
  | semicolon
  | colon
  | leftParen
  | rightParen
  | leftBrace
  | rightBrace
  | leftBracket
  | rightBracket
  | functionWord
  | letWord
  | trueWord
  | falseWord
  | ifWord
  | elseWord
  | returnWord
  | macroWord
  deriving DecidableEq

namespace TokenKind

/-- The name of a kind in diagnostics; for a symbol it is the symbol. -/
def name : TokenKind → String
  | illegal => "ILLEGAL"
  | endOfInput => "EOF"
  | identifier => "IDENT"
  | integer => "INT"
  | string => "STRING"
  | assign => "="
  | plus => "+"
  | minus => "-"
  | bang => "!"
  | asterisk => "*"
  | slash => "/"
  | less => "<"
  | greater => ">"
  | equal => "=="
  | notEqual => "!="
  | comma => ","
  | semicolon => ";"
  | colon => ":"
  | leftParen => "("
  | rightParen => ")"
  | leftBrace => "\x7b"
  | rightBrace => "\x7d"
  | leftBracket => "["
  | rightBracket => "]"
  | functionWord => "FUNCTION"
  | letWord => "LET"
  | trueWord => "TRUE"
  | falseWord => "FALSE"
  | ifWord => "IF"
  | elseWord => "ELSE"
  | returnWord => "RETURN"
  | macroWord => "MACRO"

/-- Every kind, in the order in which kinds are listed. -/
def all : List TokenKind :=
  [illegal, endOfInput, identifier, integer, string, assign, plus, minus, bang, asterisk, slash,
    less, greater, equal, notEqual, comma, semicolon, colon, leftParen, rightParen, leftBrace,
    rightBrace, leftBracket, rightBracket, functionWord, letWord, trueWord, falseWord, ifWord,
    elseWord, returnWord, macroWord]

/-- The listing leaves no kind out. -/
theorem mem_all (kind : TokenKind) : kind ∈ all := by
  cases kind <;> decide

/-- The kind that a name belongs to. -/
def ofName? (name : String) : Option TokenKind :=
  all.find? fun kind => kind.name == name

/-- The keywords, each with its kind. -/
def keywords : List (String × TokenKind) :=
  [("fn", functionWord), ("let", letWord), ("true", trueWord), ("false", falseWord),
    ("if", ifWord), ("else", elseWord), ("return", returnWord), ("macro", macroWord)]

/-- The kind of a word: a keyword has its own, every other word is an identifier. -/
def ofWord (word : String) : TokenKind :=
  (keywords.lookup word).getD identifier

end TokenKind

/-! ## Tokens -/

/-- A token: its kind and the text it carries. -/
structure Token where
  kind : TokenKind
  literal : String
  deriving DecidableEq

namespace Token

/-- The token that stands after the last one. -/
def endOfInput : Token := ⟨.endOfInput, ""⟩

/-- The token that a symbol is read as. -/
def symbol (kind : TokenKind) : Token := ⟨kind, kind.name⟩

/-- The token that a word is read as. -/
def word (text : String) : Token := ⟨TokenKind.ofWord text, text⟩

end Token

end MonkeyLang
