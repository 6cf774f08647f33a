import MonkeyLang.Session

/-!
# Dialogues

A dialogue reads its input line by line and answers each line before it reads
the next.  Before a line is read a prompt is shown.  The answer is the list of
everything that was wrong with the line, or its value, or nothing; what the line
printed stands before it.  The dialogue closes at the end of the input, or at a
line whose bytes are no text.
-/

set_option autoImplicit false

namespace MonkeyLang

/-! ## Lines of bytes -/

/-- The first line of some bytes, with its line feed if it has one, and the bytes after it. -/
def takeLine : List UInt8 → List UInt8 × List UInt8
  | [] => ([], [])
  | byte :: rest =>
    if byte = 10 then ([byte], rest)
    else
      let (line, after) := takeLine rest
      (byte :: line, after)

/-- The text whose UTF-8 bytes these are. -/
def textOfBytes? (bytes : List UInt8) : Option String :=
  String.fromUTF8? ⟨bytes.toArray⟩

theorem takeLine_length (bytes : List UInt8) :
    (takeLine bytes).1.length + (takeLine bytes).2.length = bytes.length := by
  induction bytes with
  | nil => rfl
  | cons byte rest ih =>
    rw [takeLine]
    split
    · simp only [List.length_cons, List.length_nil]
      omega
    · simp only [List.length_cons]
      omega

/-- A line takes at least one byte. -/
theorem takeLine_length_lt (byte : UInt8) (rest : List UInt8) :
    (takeLine (byte :: rest)).2.length < (byte :: rest).length := by
  have whole := takeLine_length (byte :: rest)
  have : 0 < (takeLine (byte :: rest)).1.length := by
    rw [takeLine]
    split <;> simp
  omega

/-! ## Exchanges -/

/-- The lines that list what was wrong with a text. -/
def listing (diagnostics : List Diagnostic) : String :=
  diagnostics.foldr (fun diagnostic text => "\t" ++ diagnostic.message ++ "\n" ++ text) ""

/-- The answer to a line. -/
def Outcome.answer : Outcome → String
  | .malformed diagnostics => "parser errors:\n" ++ listing diagnostics
  | .value result => result.display ++ "\n"
  | .silent => ""

/-- What one line led to. -/
structure Exchange where
  /-- What the line printed. -/
  printed : String
  answer : String

/-- The exchange that a line leads to, and the session after it. -/
def Session.exchange (depth : Nat) (session : Session) (line : String) :
    Option (Exchange × Session) :=
  (session.read depth line).map fun (outcome, session) =>
    let (printed, session) := session.takePrinted
    (⟨printed, outcome.answer⟩, session)

/-! ## Dialogues -/

/-- Why a dialogue closes. -/
inductive Closing where
  | endOfInput
  /-- The next line is no text. -/
  | notText
  deriving DecidableEq

/-- The exchanges of a dialogue, why it closed, and the session it left. -/
structure Dialogue where
  exchanges : List Exchange
  closing : Closing
  session : Session

/-- A dialogue with an exchange before it. -/
def Dialogue.after (first : Exchange) (dialogue : Dialogue) : Dialogue :=
  { dialogue with exchanges := first :: dialogue.exchanges }

/-- The dialogue over the bytes of an input. -/
def Session.converse (depth : Nat) (session : Session) (input : List UInt8) : Option Dialogue :=
  match input with
  | [] => some ⟨[], .endOfInput, session⟩
  | byte :: rest =>
    match textOfBytes? (takeLine (byte :: rest)).1 with
    | none => some ⟨[], .notText, session⟩
    | some line =>
      match session.exchange depth line with
      | none => none
      | some (exchange, session) =>
        (session.converse depth (takeLine (byte :: rest)).2).map (Dialogue.after exchange)
termination_by input.length
decreasing_by exact takeLine_length_lt byte rest

namespace Dialogue

/-- What is shown once the last prompt is out: a dialogue that reaches the end of the input ends
its line. -/
def farewell (dialogue : Dialogue) : String :=
  match dialogue.closing with
  | .endOfInput => "\n"
  | .notText => ""

/-- The prompts and the answers of a dialogue. -/
def transcript (prompt : String) (dialogue : Dialogue) : String :=
  dialogue.exchanges.foldr (fun exchange text => prompt ++ exchange.answer ++ text)
    (prompt ++ dialogue.farewell)

/-- What the lines of a dialogue printed. -/
def printed (dialogue : Dialogue) : String :=
  dialogue.exchanges.foldr (fun exchange text => exchange.printed ++ text) ""

/-- The prompts, what the lines printed, and the answers, in the order in which they come. -/
def screen (prompt : String) (dialogue : Dialogue) : String :=
  dialogue.exchanges.foldr
    (fun exchange text => prompt ++ exchange.printed ++ exchange.answer ++ text)
    (prompt ++ dialogue.farewell)

end Dialogue

end MonkeyLang
