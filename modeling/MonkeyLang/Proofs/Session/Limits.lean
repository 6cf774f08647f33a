import MonkeyLang.Proofs.Evaluation.Reachability
import MonkeyLang.Proofs.Expansion.CorrespondingExpansions
import MonkeyLang.Proofs.Session.Reading

/-!
# Limits on what a session holds

The values of a session may be limited in the syntax that they hold, and to values
that are no errors. A session that begins within such limits keeps to them, whatever
text it reads, provided that the program of the text is in the class of trees: it is
a run that corresponds to itself, and evaluation and expansion respect every
correspondence (`Session.KeepsTo.read`). What the text came to keeps to the limits as
well, unless it is the error that ended the text.

That error is made after everything else, so a session never holds one
(`Session.errors_shown`).
-/

set_option autoImplicit false

namespace MonkeyLang

/-! ## Limited runs -/

namespace Correspondence

/-- Before any frame was opened, none is shared. -/
theorem not_shared_initial {id : FrameId} (shared : False) :
    id < Machine.initial.store.size ∧ id < Machine.initial.store.size :=
  shared.elim

/-- A run whose values hold syntax of a class, and are errors only if these are allowed, as one that
corresponds to itself. -/
def limited (trees : SyntaxClass) (errors : Prop) : Correspondence where
  trees := trees
  errors := errors
  visible _ := True
  visible_of_name _ := trivial
  visible_quote := trivial
  left := .initial
  right := .initial
  shared _ := False
  shared_lt := @not_shared_initial

variable {trees : SyntaxClass} {errors : Prop}

theorem frames_limited (id : FrameId) : (limited trees errors).Frames id id :=
  .inr ⟨id, (Nat.zero_add id).symm, (Nat.zero_add id).symm⟩

theorem machines_limited_initial : (limited trees errors).Machines .initial .initial where
  opened := ⟨0, rfl, rfl⟩
  contents _ := by
    rw [Store.frame?, Store.frame?, Machine.initial, Store.empty, Array.getElem?_empty,
      Array.getElem?_empty]
    exact .none
  printed := ⟨"", rfl, rfl⟩

end Correspondence

open Correspondence

/-! ## Limited sessions -/

section

variable {trees : SyntaxClass} {errors : Prop}

/-- Every value of the session keeps to the limits. -/
def Session.KeepsTo (trees : SyntaxClass) (errors : Prop) (session : Session) : Prop :=
  (limited trees errors).Machines session.machine session.machine

/-- What a text came to keeps to the limits, or it is an error. -/
def Outcome.KeepsTo (trees : SyntaxClass) (errors : Prop) : Outcome → Prop
  | .value shown => (limited trees errors).Values shown shown ∨ ∃ cause, shown = .error cause
  | _ => True

namespace Session

theorem keepsTo_initial : initial.KeepsTo trees errors :=
  (machines_limited_initial.openFrame .none).openFrame .none

variable {depth : Nat} {session after : Session} {outcome : Outcome} {program : Program}

theorem KeepsTo.run (held : session.KeepsTo trees errors) (inside : trees.statements program)
    (runs : session.run depth program = some (outcome, after)) :
    outcome.KeepsTo trees errors ∧ after.KeepsTo trees errors := by
  obtain ⟨ending, machine, evaluates, rfl, rfl⟩ := of_run_eq runs
  have block := (respects_evaluate (limited trees errors) depth).block
    (frames_limited session.names) inside
  obtain ⟨endings, machines⟩ := block.self held evaluates
  refine ⟨?_, machines⟩
  cases shows : answer program ending with
  | none => trivial
  | some shown =>
      rcases endings.of_answer shows with values | ⟨cause, -, same⟩
      · exact .inl values
      · exact .inr ⟨cause, same⟩

/-- What is left of a program when its macros are defined and expanded is in the class. -/
theorem KeepsTo.expansion (held : session.KeepsTo trees errors) (inside : trees.statements program)
    {ending : Ending Program} {machine : Machine}
    (expands : expandMacros depth session.macros
      (defineMacros session.macros program session.machine).1
      (defineMacros session.macros program session.machine).2 = some (ending, machine)) :
    (limited trees errors).Endings (Same trees.statements) ending ending ∧
      (limited trees errors).Machines machine machine := by
  obtain ⟨⟨_, rest⟩, machines⟩ :=
    Machines.defineMacros (frames_limited session.macros) inside held
  exact (runs_expandMacros depth (frames_limited session.macros) rest).self machines expands

theorem KeepsTo.execute (held : session.KeepsTo trees errors) (inside : trees.statements program)
    (executes : session.execute depth program = some (outcome, after)) :
    outcome.KeepsTo trees errors ∧ after.KeepsTo trees errors := by
  obtain ⟨ending, machine, expands, comes⟩ := of_execute_eq executes
  obtain ⟨endings, machines⟩ := held.expansion inside expands
  rcases comes with ⟨expanded, rfl, runs⟩ | ⟨value, rfl, rfl, rfl⟩ | ⟨cause, rfl, rfl, rfl⟩
  · cases endings with
    | value same =>
        have held' : Session.KeepsTo trees errors { session with machine } := machines
        exact held'.run same.2 runs
  · cases endings with
    | returned values => exact ⟨.inl values, machines⟩
  · exact ⟨.inr ⟨cause, rfl⟩, machines⟩

/-- **A session keeps to its limits, whatever text it reads.** -/
theorem KeepsTo.read (held : session.KeepsTo trees errors) {text : String}
    (inside : trees.statements (parseText text).program)
    (reads : session.read depth text = some (outcome, after)) :
    outcome.KeepsTo trees errors ∧ after.KeepsTo trees errors := by
  rcases of_read_eq reads with ⟨_, executes⟩ | ⟨_, rfl, rfl⟩
  · exact held.execute inside executes
  · exact ⟨trivial, held⟩

end Session

end

/-! ## Errors as values -/

/-- **An error is a value only at the top.** Nothing that the frames of a session lead to is an
error, and an error that what a text shows leads to is the whole of what it shows. -/
theorem Session.errors_shown {texts : List String} {session : Session}
    (reads : Session.initial.Reads texts session) :
    (∀ {id : FrameId} {part : Value}, session.machine.store.Reaches id part →
      part.isError = false) ∧
    ∀ {depth : Nat} {text : String} {shown part : Value} {after : Session},
      session.read depth text = some (.value shown, after) →
        after.machine.store.Leads shown part → part.isError = true → part = shown := by
  have visible : ∀ name, (limited .all False).visible name := fun _ => trivial
  have held : session.KeepsTo .all False :=
    reads.invariant keepsTo_initial fun held read => (held.read trivial read).2
  constructor
  · intro id part reaches
    exact (Machines.values_of_reaches held visible (frames_limited id) reaches).isError_eq_false
      not_false
  · intro depth text shown part after read leads isError
    obtain ⟨values | ⟨cause, rfl⟩, machines⟩ := held.read trivial read
    · have part := Machines.values_of_leads machines visible values leads
      rw [part.isError_eq_false not_false] at isError
      cases isError
    · cases leads
      rfl

end MonkeyLang
