import MonkeyLang.CommandLine

/-!
# The program

Reads what a command needs, carries it out and writes its report.  A dialogue
answers each line as soon as it is read.
-/

set_option autoImplicit false

namespace MonkeyLang

/-- How deep evaluations may nest. -/
def maxDepth : Nat := 1000000

/-- What is shown when an evaluation nests deeper than that. -/
def tooDeep : Report := .failure "" "error: evaluation nests too deeply\n"

/-- Writes a report and gives its exit code. -/
def writeReport (report : Report) : IO UInt32 := do
  IO.print report.output
  IO.eprint report.errors
  return report.exitCode

/-- The number of a refusal, which the system may give with either sign. -/
def refusalNumber (code : UInt32) : Nat :=
  if code < 2147483648 then code.toNat else (0 - code).toNat

/-- Why a file could not be read. -/
def problemOfError : IO.Error → ReadProblem
  | .noFileOrDirectory _ code reason | .inappropriateType _ code reason
  | .permissionDenied _ code reason | .invalidArgument _ code reason
  | .resourceExhausted _ code reason | .noSuchThing _ code reason =>
    .refused reason.capitalize (refusalNumber code)
  | other => .refused (toString other) 5

/-- The bytes of a file. -/
def readBytes (path : String) : IO (Except ReadProblem (List UInt8)) := do
  try
    return .ok (← IO.FS.readBinFile path).data.toList
  catch error =>
    return .error (problemOfError error)

/-- The bytes up to the next line feed or the end of the input. -/
partial def readLine (input : IO.FS.Stream) (before : ByteArray) : IO ByteArray := do
  let byte ← input.read 1
  if byte.isEmpty then
    return before
  else if byte.data[0]? = some 10 then
    return before ++ byte
  else
    readLine input (before ++ byte)

/-- Holds a dialogue over the standard input. -/
partial def holdDialogue (prompt : String) (session : Session) : IO UInt32 := do
  IO.print prompt
  (← IO.getStdout).flush
  let line ← readLine (← IO.getStdin) .empty
  let rest : Dialogue ←
    if line.isEmpty then
      pure ⟨[], .endOfInput, session⟩
    else
      match textOfBytes? line.data.toList with
      | none => pure ⟨[], .notText, session⟩
      | some text =>
        match session.exchange maxDepth text with
        | none => return ← writeReport tooDeep
        | some (exchange, session) =>
          IO.print (exchange.printed ++ exchange.answer)
          return ← holdDialogue prompt session
  writeReport (.ofDialogue "" rest)

end MonkeyLang

/-- Carries out the command that the arguments ask for. -/
def main (arguments : List String) : IO UInt32 := do
  match MonkeyLang.Command.ofArguments arguments with
  | .converse =>
    let prompt ← IO.getEnv "MONKEY_PROMPT"
    MonkeyLang.holdDialogue (prompt.getD MonkeyLang.defaultPrompt) .initial
  | command =>
    let content ←
      match command with
      | .run path => MonkeyLang.readBytes path
      | _ => pure (.ok [])
    let report := command.report MonkeyLang.maxDepth ⟨fun _ => content, [], none⟩
    MonkeyLang.writeReport (report.getD MonkeyLang.tooDeep)
