import MonkeyLang.Text.Quoted
import MonkeyLang.Token

/-!
# What can be wrong with a text

A diagnostic names the cause of one failure to parse and is shown as one line.
-/

set_option autoImplicit false

namespace MonkeyLang

/-- The cause of a failure to parse. -/
inductive Diagnostic where
  /-- One kind of token was required next and another one found. -/
  | unexpected (expected found : TokenKind)
  /-- No expression starts with this kind of token. -/
  | noOperand (kind : TokenKind)
  /-- This kind of token does not continue an expression. -/
  | noContinuation (kind : TokenKind)
  /-- The integer does not fit 64 bits. -/
  | integerOutOfRange (literal : String)
  deriving DecidableEq

/-- The line that shows a diagnostic. -/
def Diagnostic.message : Diagnostic → String
  | .unexpected expected found =>
    "expected next token to be " ++ expected.name ++ ", got " ++ found.name ++ " instead"
  | .noOperand kind => "no prefix parse function for " ++ kind.name ++ " found"
  | .noContinuation kind => "no infix parse function for " ++ kind.name ++ " found"
  | .integerOutOfRange literal => "could not parse " ++ Text.quoted literal ++ " as integer"

end MonkeyLang
