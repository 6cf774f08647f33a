import MonkeyLang.Dialogue

/-!
# The command line

The first argument names a command; without one a dialogue is held.  A command
ends with an exit code, text for the standard output and text for the standard
error.
-/

set_option autoImplicit false

namespace MonkeyLang

/-! ## Commands -/

/-- What the arguments ask for. -/
inductive Command where
  | converse
  | run (path : String)
  /-- To run a file without naming one. -/
  | runNothing
  | help
  | unknown (word : String)
  deriving DecidableEq

/-- The command that the arguments ask for. -/
def Command.ofArguments : List String → Command
  | [] => .converse
  | "repl" :: _ => .converse
  | "run" :: path :: _ => .run path
  | ["run"] => .runNothing
  | "help" :: _ | "--help" :: _ | "-h" :: _ => .help
  | word :: _ => .unknown word

/-- The prompt that is shown if none is asked for. -/
def defaultPrompt : String := ">> "

/-- How the command line is used. -/
def usage : String :=
  "Monkey interpreter\n" ++
  "\n" ++
  "Usage: monkey [command]\n" ++
  "\n" ++
  "Commands:\n" ++
  "  repl          Start the interactive prompt (default)\n" ++
  "  run <file>    Evaluate a source file\n" ++
  "  help          Show this message\n" ++
  "\n" ++
  "Environment:\n" ++
  "  MONKEY_PROMPT   Prompt string (default \">> \")\n" ++
  "  RUST_LOG        Enable tracing output, e.g. RUST_LOG=monkey_eval=debug\n"

/-! ## Problems with files -/

/-- Why an input cannot be read as text. -/
inductive ReadProblem where
  /-- The system refused, for a reason it gives in words and by number. -/
  | refused (reason : String) (code : Nat)
  | notText
  deriving DecidableEq

namespace ReadProblem

/-- No file has the name. -/
def noSuchFile : ReadProblem := .refused "No such file or directory" 2

/-- The name belongs to a directory. -/
def isDirectory : ReadProblem := .refused "Is a directory" 21

/-- The text that shows a problem. -/
def message : ReadProblem → String
  | refused reason code => reason ++ " (os error " ++ Decimal.write code ++ ")"
  | notText => "stream did not contain valid UTF-8"

end ReadProblem

/-- The text of a file. -/
def textOfFile (content : Except ReadProblem (List UInt8)) : Except ReadProblem String := do
  match textOfBytes? (← content) with
  | some text => return text
  | none => throw .notText

/-! ## Reports -/

/-- What a command leaves behind. -/
structure Report where
  exitCode : UInt32
  output : String
  errors : String

namespace Report

/-- Success with some output. -/
def success (output : String) : Report := ⟨0, output, ""⟩

/-- Failure with some output and an explanation. -/
def failure (output errors : String) : Report := ⟨1, output, errors⟩

/-- The report on a finished dialogue. -/
def ofDialogue (prompt : String) (dialogue : Dialogue) : Report :=
  match dialogue.closing with
  | .endOfInput => success (dialogue.screen prompt)
  | .notText =>
    failure (dialogue.screen prompt) ("error: " ++ ReadProblem.message .notText ++ "\n")

/-- The report on a file whose text came to an outcome and printed some output. -/
def ofOutcome (path output : String) : Outcome → Report
  | .malformed diagnostics =>
    failure output (path ++ ": parser errors:\n" ++ listing diagnostics)
  | .value (.error cause) => failure output (path ++ ": ERROR: " ++ cause.message ++ "\n")
  | .value _ | .silent => success output

/-- The report on running a file; `none` if it nests deeper than allowed. -/
def ofFile (depth : Nat) (path : String) (content : Except ReadProblem (List UInt8)) :
    Option Report :=
  match textOfFile content with
  | .error problem =>
    some (failure "" ("error: cannot read " ++ path ++ ": " ++ problem.message ++ "\n"))
  | .ok text =>
    (Session.initial.read depth text).map fun (outcome, session) =>
      ofOutcome path session.takePrinted.1 outcome

/-- The report on a run without a file. -/
def ofNoFile : Report :=
  failure "" "Usage: monkey run <file.monkey>\n"

/-- The report on a word that names no command. -/
def ofUnknown (word : String) : Report :=
  failure usage ("Unknown command: " ++ word ++ "\n")

end Report

/-! ## Carrying out commands -/

/-- What a command finds around it. -/
structure Surroundings where
  /-- The bytes of the file of a name. -/
  file : String → Except ReadProblem (List UInt8)
  /-- The bytes of the standard input. -/
  input : List UInt8
  /-- The prompt that is asked for. -/
  prompt : Option String

/-- The report on a command; `none` if an evaluation nests deeper than allowed. -/
def Command.report (depth : Nat) (surroundings : Surroundings) : Command → Option Report
  | .converse =>
    (Session.initial.converse depth surroundings.input).map
      (.ofDialogue (surroundings.prompt.getD defaultPrompt))
  | .run path => Report.ofFile depth path (surroundings.file path)
  | .runNothing => some Report.ofNoFile
  | .help => some (.success usage)
  | .unknown word => some (.ofUnknown word)

end MonkeyLang
