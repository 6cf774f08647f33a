import MonkeyLang.Expansion
import MonkeyLang.Parsing

/-!
# Sessions

A session reads one text after the other.  A text that does not parse changes
nothing.  One that parses has its macros defined and expanded and is then
evaluated; the bindings it makes and the macros it defines stay for the next
text.  Names and macros live in two frames of one store, neither inside the
other.
-/

set_option autoImplicit false

namespace MonkeyLang

/-- What a session keeps between texts. -/
structure Session where
  machine : Machine
  /-- The frame that programs run in. -/
  names : FrameId
  /-- The frame of the macros. -/
  macros : FrameId

/-- What a text came to. -/
inductive Outcome where
  /-- The text did not parse, and nothing was evaluated. -/
  | malformed (diagnostics : List Diagnostic)
  /-- The text has a value; an error is one too. -/
  | value (value : Value)
  /-- The text ended silently. -/
  | silent

namespace Session

/-- A session that has read nothing. -/
def initial : Session where
  machine := { Machine.initial with store := (Store.empty.openFrame none).openFrame none }
  names := 0
  macros := 1

/-- Evaluates a program that has its macros expanded. -/
def run (depth : Nat) (session : Session) (program : Program) : Option (Outcome × Session) :=
  (runProgram depth session.names program session.machine).map fun (answer, machine) =>
    (match answer with
      | some value => .value value
      | none => .silent, { session with machine })

/-- Defines and expands the macros of a program and evaluates it. -/
def execute (depth : Nat) (session : Session) (program : Program) : Option (Outcome × Session) :=
  let (program, machine) := defineMacros session.macros program session.machine
  match expandMacros depth session.macros program machine with
  | none => none
  | some (.value program, machine) => run depth { session with machine } program
  | some (.returned value, machine) => some (.value value, { session with machine })
  | some (.failed cause, machine) => some (.value (.error cause), { session with machine })

/-- Reads one text; `none` if its evaluation nests deeper than allowed. -/
def read (depth : Nat) (session : Session) (text : String) : Option (Outcome × Session) :=
  let parsed := parseText text
  if parsed.diagnostics.isEmpty then
    execute depth session parsed.program
  else
    some (.malformed parsed.diagnostics, session)

/-- The text printed so far, and the session with none. -/
def takePrinted (session : Session) : String × Session :=
  (session.machine.printed, { session with machine := { session.machine with printed := "" } })

end Session

end MonkeyLang
