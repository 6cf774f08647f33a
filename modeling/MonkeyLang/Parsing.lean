import MonkeyLang.Parsing.Grammar
import MonkeyLang.Token.Scanning

/-!
# Parsing

A program is read statement by statement up to the end of the input.  A
malformed statement is left out and its cause recorded, and reading goes on
after it, so one pass reports every problem it can find.
-/

set_option autoImplicit false

namespace MonkeyLang

/-- What a list of tokens was read as, and everything that was wrong with it. -/
structure Parsed where
  program : Program
  diagnostics : List Diagnostic

namespace Parsed

/-- A statement that was read before the rest. -/
def keep (first : Statement) (recorded : List Diagnostic) (rest : Parsed) : Parsed :=
  ⟨first :: rest.program, recorded ++ rest.diagnostics⟩

/-- A malformed statement that was left out before the rest. -/
def skip (recorded : List Diagnostic) (cause : Diagnostic) (rest : Parsed) : Parsed :=
  ⟨rest.program, recorded ++ cause :: rest.diagnostics⟩

/-- The lines that show the diagnostics. -/
def messages (parsed : Parsed) : List String :=
  parsed.diagnostics.map Diagnostic.message

end Parsed

/-- Reads tokens as a program. -/
def parse (tokens : List Token) : Parsed :=
  if _more : Cursor.kind tokens = .endOfInput then
    ⟨[], []⟩
  else
    let reply := statement tokens
    match reply.result with
    | .ok first => (parse (Cursor.next reply.stop)).keep first reply.recorded
    | .error cause =>
      (parse (Cursor.next (Cursor.recover reply.stop))).skip reply.recorded cause
termination_by tokens.length
decreasing_by
  · have := (statement tokens).forward.length_le
    have := Cursor.length_next_lt _more
    simp only [Cursor.length_next] at *
    omega
  · have := (Cursor.recover_suffix (statement tokens).stop).length_le
    have := (statement tokens).forward.length_le
    have := Cursor.length_next_lt _more
    simp only [Cursor.length_next] at *
    omega

/-- Reads a text as a program. -/
def parseText (text : String) : Parsed :=
  parse (tokenize text)

end MonkeyLang
