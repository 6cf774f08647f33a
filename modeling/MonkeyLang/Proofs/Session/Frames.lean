import MonkeyLang.Proofs.Expansion.Definitions
import MonkeyLang.Proofs.Expansion.Effects
import MonkeyLang.Proofs.Session.Reading

/-!
# The two frames of a session

Programs run in the frame of the names; macros are bound in another frame, which
is not inside it. Nothing that a session does changes the frame of the macros but
the definitions of macros: a program that is run leaves it as it was
(`Session.Apart.run`), and after a text was read it is as the definitions of the
text left it (`Session.Apart.execute`).
-/

set_option autoImplicit false

namespace MonkeyLang

/-! ## Definitions -/

section

variable {macros : FrameId}

@[simp]
theorem size_defineMacro (machine : Machine) (name : String) (parameters : List String)
    (body : Block) :
    (machine.defineMacro macros name parameters body).store.size = machine.store.size :=
  Store.size_bind _ _ _ _

/-- Definitions open no frame. -/
theorem size_defineMacros : ∀ (program : Program) (machine : Machine),
    (defineMacros macros program machine).2.store.size = machine.store.size
  | [], _ => rfl
  | first :: rest, machine => by
    cases defines : first.definesMacro with
    | false =>
        rw [defineMacros_cons defines]
        exact size_defineMacros rest machine
    | true =>
        obtain ⟨name, parameters, body, rfl⟩ := Statement.eq_of_definesMacro defines
        rw [defineMacros, size_defineMacros rest, size_defineMacro]

end

/-! ## Sessions -/

namespace Session

/-- The frame of the macros is there, and programs run in another one. -/
structure Apart (session : Session) : Prop where
  distinct : session.macros ≠ session.names
  present : session.macros < session.machine.store.size

/-- The session has the same two frames as before, and that of the macros is as the machine has
it. -/
structure Kept (session : Session) (machine : Machine) (after : Session) : Prop where
  names : after.names = session.names
  macros : after.macros = session.macros
  frame : after.machine.store.frame? session.macros = machine.store.frame? session.macros

theorem apart_initial : initial.Apart :=
  ⟨by decide, by decide⟩

variable {depth : Nat} {session after : Session} {machine : Machine} {outcome : Outcome}
  {program : Program}

theorem Kept.apart (kept : session.Kept machine after) (apart : session.Apart)
    (present : session.macros < machine.store.size) : after.Apart := by
  constructor
  · rw [kept.names, kept.macros]
    exact apart.distinct
  · rw [kept.macros, ← Store.frame?_isSome, kept.frame, Store.frame?_isSome]
    exact present

/-- A program that is run changes nothing in the frame of the macros. -/
theorem Apart.run (apart : session.Apart)
    (runs : session.run depth program = some (outcome, after)) :
    session.Kept session.machine after := by
  obtain ⟨ending, machine, evaluates, -, rfl⟩ := of_run_eq runs
  have changes := (confined_evaluate depth).block (List.Subset.refl _) _ _ _ evaluates
  exact ⟨rfl, rfl, changes.others _ apart.present apart.distinct⟩

/-- A program that is executed leaves the frame of the macros as its definitions left it. -/
theorem Apart.execute (apart : session.Apart)
    (executes : session.execute depth program = some (outcome, after)) :
    session.Kept (defineMacros session.macros program session.machine).2 after := by
  obtain ⟨ending, machine, expands, comes⟩ := of_execute_eq executes
  have present : session.macros < (defineMacros session.macros program session.machine).2.store.size :=
    by rw [size_defineMacros]; exact apart.present
  have extended := (expands_expandMacros depth session.macros _).keeps expands
  have unchanged := extended.frame?_eq session.macros present
  rcases comes with ⟨expanded, rfl, runs⟩ | ⟨_, _, _, rfl⟩ | ⟨_, _, _, rfl⟩
  · have apart' : Apart { session with machine } :=
      ⟨apart.distinct, Nat.lt_of_lt_of_le present extended.size_le⟩
    obtain ⟨names, macros, frame⟩ := apart'.run runs
    exact ⟨names, macros, frame.trans unchanged⟩
  · exact ⟨rfl, rfl, unchanged⟩
  · exact ⟨rfl, rfl, unchanged⟩

theorem Apart.read (apart : session.Apart) {text : String}
    (reads : session.read depth text = some (outcome, after)) : after.Apart := by
  rcases of_read_eq reads with ⟨_, executes⟩ | ⟨_, _, rfl⟩
  · refine (apart.execute executes).apart apart ?_
    rw [size_defineMacros]
    exact apart.present
  · exact apart

end Session

end MonkeyLang
