import MonkeyLang.Proofs.Rendering.RoundTrip
import MonkeyLang.Session

/-!
# What a session did

A session that has read a text has either left everything as it was, because the
text did not parse, or defined the macros of the text, expanded it, and, if the
expansion succeeded, evaluated it. These are the facts that every property of
sessions is shown from; a property of all sessions follows by going through the
texts one by one (`Session.Reads`).
-/

set_option autoImplicit false

namespace MonkeyLang

/-- What an answer comes to. -/
def Outcome.ofAnswer : Option Value → Outcome
  | some shown => .value shown
  | none => .silent

namespace Session

variable {depth : Nat} {session after : Session} {outcome : Outcome}

/-- A session that has run a program has evaluated it in the frame of the names. -/
theorem of_run_eq {program : Program} (runs : session.run depth program = some (outcome, after)) :
    ∃ ending machine,
      (evaluate depth).block session.names program session.machine = some (ending, machine) ∧
      outcome = .ofAnswer (answer program ending) ∧ after = { session with machine } := by
  rw [run, runProgram, Option.map_map, Option.map_eq_some_iff] at runs
  obtain ⟨⟨ending, machine⟩, evaluates, same⟩ := runs
  cases same
  refine ⟨ending, machine, evaluates, ?_, rfl⟩
  cases answer program ending <;> rfl

/-- A program that ends when it is evaluated in the frame of the names has been run. -/
theorem run_of_block {program : Program} {ending : Ending Value} {machine : Machine}
    (evaluates : (evaluate depth).block session.names program session.machine =
      some (ending, machine)) :
    session.run depth program = some (.ofAnswer (answer program ending), { session with machine }) := by
  rw [run, runProgram, evaluates]
  dsimp only [Option.map_some]
  cases answer program ending <;> rfl

/-- The macro pass of a session over a program: its macros are defined, and what is left of it is
expanded. -/
def macroPass (depth : Nat) (session : Session) (program : Program) :
    Option (Ending Program × Machine) :=
  expandMacros depth session.macros (defineMacros session.macros program session.machine).1
    (defineMacros session.macros program session.machine).2

/-- A session that has executed a program has expanded it and has then run what came of it, unless
the expansion did not give a program. -/
theorem of_execute_eq {program : Program}
    (executes : session.execute depth program = some (outcome, after)) :
    ∃ ending machine,
      session.macroPass depth program = some (ending, machine) ∧
      ((∃ expanded, ending = .value expanded ∧
          run depth { session with machine } expanded = some (outcome, after)) ∨
        (∃ value, ending = .returned value ∧ outcome = .value value ∧
          after = { session with machine }) ∨
        ∃ cause, ending = .failed cause ∧ outcome = .value (.error cause) ∧
          after = { session with machine }) := by
  rw [execute] at executes
  dsimp only at executes
  split at executes
  · cases executes
  · next expanded machine expands =>
    exact ⟨_, machine, expands, .inl ⟨expanded, rfl, executes⟩⟩
  · next value machine expands =>
    cases executes
    exact ⟨_, machine, expands, .inr (.inl ⟨value, rfl, rfl, rfl⟩)⟩
  · next cause machine expands =>
    cases executes
    exact ⟨_, machine, expands, .inr (.inr ⟨cause, rfl, rfl, rfl⟩)⟩

/-- A session that has read a text has executed its program, or the text did not parse. -/
theorem of_read_eq {text : String} (reads : session.read depth text = some (outcome, after)) :
    ((parseText text).diagnostics = [] ∧
      session.execute depth (parseText text).program = some (outcome, after)) ∨
    ((parseText text).diagnostics ≠ [] ∧
      outcome = .malformed (parseText text).diagnostics ∧ after = session) := by
  rw [read] at reads
  split at reads
  · next parses => exact .inl ⟨List.isEmpty_iff.mp parses, reads⟩
  · next malformed =>
    cases reads
    exact .inr ⟨mt List.isEmpty_iff.mpr malformed, rfl, rfl⟩

/-- Reading the text of a program is executing the program. -/
theorem read_render (depth : Nat) (session : Session) {program : Program}
    (renderable : program.Renderable) :
    session.read depth program.render = session.execute depth program := by
  have parsed : parseText program.render = ⟨program, []⟩ := parseText_renderStatements renderable
  rw [read, parsed]
  rfl

/-- The session has read the texts one after the other, each within some depth. -/
inductive Reads : Session → List String → Session → Prop where
  | nothing (session : Session) : Reads session [] session
  | text {session middle after : Session} {depth : Nat} {text : String} {texts : List String}
    {outcome : Outcome} (first : session.read depth text = some (outcome, middle))
    (others : Reads middle texts after) : Reads session (text :: texts) after

theorem reads_nil_iff : session.Reads [] after ↔ after = session := by
  constructor
  · rintro ⟨⟩
    rfl
  · rintro rfl
    exact .nothing _

theorem reads_cons_iff {text : String} {texts : List String} :
    session.Reads (text :: texts) after ↔
      ∃ middle, (∃ depth outcome, session.read depth text = some (outcome, middle)) ∧
        middle.Reads texts after := by
  constructor
  · intro reads
    cases reads with
    | text first others => exact ⟨_, ⟨_, _, first⟩, others⟩
  · rintro ⟨middle, ⟨depth, outcome, first⟩, others⟩
    exact .text first others

/-- What every text preserves holds at the end. -/
theorem Reads.invariant {property : Session → Prop} {texts : List String}
    (reads : session.Reads texts after) (start : property session)
    (preserved : ∀ {depth session text outcome after}, property session →
      session.read depth text = some (outcome, after) → property after) : property after := by
  induction reads with
  | nothing => exact start
  | text first _ ih => exact ih (preserved start first)

end Session

end MonkeyLang
