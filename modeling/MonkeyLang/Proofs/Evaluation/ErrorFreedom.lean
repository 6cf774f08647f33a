import MonkeyLang.Proofs.Evaluation.CorrespondingEvaluation
import MonkeyLang.Proofs.Evaluation.Reachability

/-!
# Errors are no values

An error ends an evaluation; it is never stored, passed on or tested. Call a frame
error-free if nothing that it leads to is an error, through elements of arrays, keys and
values of hashes, and frames of closures. A program that ends in an error-free frame
leaves the frame error-free, and what it shows is either the error that ended it or a
value that leads to no error (`runProgram_errorFree`).

Other frames of the same store may hold errors, as long as the frame of the program does
not lead to them. So the run is taken as one that corresponds to itself over the frames
that are error-free when it begins: evaluation respects every correspondence, and in this
one no value is an error.
-/

set_option autoImplicit false

namespace MonkeyLang

/-- Nothing that the frame leads to is an error. -/
def Store.ErrorFree (store : Store) (frame : FrameId) : Prop :=
  ∀ part, store.Reaches frame part → part.isError = false

/-- Neither the value nor anything that it leads to is an error. -/
def Store.ErrorFreeValue (store : Store) (value : Value) : Prop :=
  ∀ part, store.Leads value part → part.isError = false

namespace Correspondence

/-! ## Runs that begin in error-free frames -/

/-- A run from a machine, as one that corresponds to itself over the frames that are error-free at
the beginning. -/
def errorFree (machine : Machine) : Correspondence where
  trees := .all
  errors := False
  visible _ := True
  visible_of_name _ := trivial
  visible_quote := trivial
  left := machine
  right := machine
  shared id := id < machine.store.size ∧ machine.store.ErrorFree id
  shared_lt shared := ⟨shared.1, shared.1⟩

variable {machine : Machine}

theorem frames_errorFree {frame : FrameId} (free : machine.store.ErrorFree frame) :
    (errorFree machine).Frames frame frame := by
  rcases Nat.lt_or_ge frame machine.store.size with old | new
  · exact .inl ⟨⟨old, free⟩, rfl⟩
  · obtain ⟨opened, same⟩ := Nat.exists_eq_add_of_le new
    exact .inr ⟨opened, same, same⟩

mutual
/-- A value that leads to no error corresponds to itself. -/
theorem values_errorFree : ∀ {value : Value}, machine.store.ErrorFreeValue value →
    (errorFree machine).Values value value
  | .integer value, _ => .integer value
  | .boolean value, _ => .boolean value
  | .string text, _ => .string text
  | .null, _ => .null
  | .array _, free =>
    .array (lists_errorFree fun _ mem part leads => free part (.element mem leads))
  | .hash _, free =>
    .hash (entries_errorFree fun (_, (_, _)) mem =>
      ⟨fun part leads => free part (.key mem leads),
        fun part leads => free part (.entry mem leads)⟩)
  | .function _, free =>
    .function ⟨rfl, rfl, fun _ _ => trivial, trivial,
      frames_errorFree fun part reaches => free part (.function reaches)⟩
  | .builtin builtin, _ => .builtin builtin
  | .error cause, free => Bool.noConfusion (free (.error cause) (.self _))
  | .quote _, _ => .quote trivial
  | .macroValue _, free =>
    .macroValue ⟨rfl, rfl, fun _ _ => trivial, trivial,
      frames_errorFree fun part reaches => free part (.macroValue reaches)⟩

theorem lists_errorFree : ∀ {list : List Value},
    (∀ value ∈ list, machine.store.ErrorFreeValue value) → (errorFree machine).Lists list list
  | [], _ => .nil
  | _ :: _, free =>
    .cons (values_errorFree (free _ List.mem_cons_self))
      (lists_errorFree fun value mem => free value (List.mem_cons_of_mem _ mem))

theorem entries_errorFree : ∀ {table : List (HashKey × (Value × Value))},
    (∀ entry ∈ table, machine.store.ErrorFreeValue entry.2.1 ∧
      machine.store.ErrorFreeValue entry.2.2) → (errorFree machine).Entries table table
  | [], _ => .nil
  | (key, (_, _)) :: _, free =>
    .cons key (values_errorFree (free _ List.mem_cons_self).1)
      (values_errorFree (free _ List.mem_cons_self).2)
      (entries_errorFree fun entry mem => free entry (List.mem_cons_of_mem _ mem))
end

/-- What an error-free frame binds leads to no error, and the frame around it is error-free. -/
theorem contents_errorFree {id : FrameId} {frame : Frame} (free : machine.store.ErrorFree id)
    (present : machine.store.frame? id = some frame) :
    (errorFree machine).Contents frame frame := by
  refine ⟨?_, ?_⟩
  · intro name _
    cases found : frame.bindings.find? name with
    | none => exact .none
    | some value =>
        exact .some (values_errorFree fun part leads => free part (.bound present found leads))
  · cases around : frame.parent with
    | none => exact .none
    | some parent =>
        exact .some (frames_errorFree fun part reaches => free part (.outer present around reaches))

theorem machines_errorFree (machine : Machine) : (errorFree machine).Machines machine machine where
  opened := ⟨0, rfl, rfl⟩
  contents {frame frame'} frames := by
    rcases frames with ⟨⟨_, free⟩, rfl⟩ | ⟨opened, rfl, rfl⟩
    · cases present : machine.store.frame? frame with
      | none => exact .none
      | some inside => exact .some (contents_errorFree free present)
    · have missing : machine.store.frame? (machine.store.size + opened) = none :=
        Store.frame?_eq_none (Nat.le_add_right _ _)
      rw [errorFree, missing]
      exact .none
  printed := ⟨"", (String.append_empty).symm, (String.append_empty).symm⟩

end Correspondence

open Correspondence

/-! ## Programs -/

section

variable {machine after : Machine}

/-- A frame that is error-free at the beginning of a run stays so. -/
theorem Correspondence.Machines.keep_errorFree (machines : (errorFree machine).Machines after after)
    {frame : FrameId} (free : machine.store.ErrorFree frame) : after.store.ErrorFree frame := by
  intro part reaches
  have values := machines.values_of_reaches (fun _ => trivial) (frames_errorFree free) reaches
  exact values.isError_eq_false not_false

theorem Correspondence.Machines.value_errorFree
    (machines : (errorFree machine).Machines after after) {value : Value}
    (values : (errorFree machine).Values value value) : after.store.ErrorFreeValue value :=
  fun _ leads => (machines.values_of_leads (fun _ => trivial) values leads).isError_eq_false not_false

/-- **Errors are no values.** A program that ends in an error-free frame leaves it error-free, and
with it every frame that was error-free before, in whatever way the program ends. What it shows is
an error exactly if an error ended its evaluation, and then it is that error; otherwise nothing that
it leads to is an error. -/
theorem runProgram_errorFree {depth : Nat} {frame : FrameId} {program : Program}
    {result : Option Value} (free : machine.store.ErrorFree frame)
    (runs : runProgram depth frame program machine = some (result, after)) :
    after.store.ErrorFree frame ∧
      (∀ other, machine.store.ErrorFree other → after.store.ErrorFree other) ∧
      (∀ cause, result = some (.error cause) ↔
        (evaluate depth).block frame program machine = some (.failed cause, after)) ∧
      ∀ value, result = some value →
        (∃ cause, value = .error cause) ∨ after.store.ErrorFreeValue value := by
  obtain ⟨⟨ending, _⟩, ends, same⟩ := Option.map_eq_some_iff.mp runs
  cases same
  have inside : (errorFree machine).trees.statements program := trivial
  have block := (respects_evaluate (errorFree machine) depth).block (frames_errorFree free) inside
  obtain ⟨endings, machines⟩ := block.self (machines_errorFree machine) ends
  refine ⟨machines.keep_errorFree free, fun other => machines.keep_errorFree, ?_, ?_⟩
  · intro cause
    rw [ends]
    constructor
    · intro shows
      rcases endings.of_answer shows with values | ⟨cause', rfl, same⟩
      · exact Bool.noConfusion (values.isError_eq_false not_false)
      · cases same
        rfl
    · intro failed
      cases failed
      rfl
  · intro value shows
    rcases endings.of_answer shows with values | ⟨cause, -, same⟩
    · exact .inr (machines.value_errorFree values)
    · exact .inl ⟨cause, same⟩

end

/-- A machine with two frames, neither inside the other; the first holds an error. -/
def spoiledMachine : Machine :=
  ⟨((Store.empty.openFrame none).openFrame none).bind 0 "spoiled" (.error .divisionByZero), 0, ""⟩

/-- `let one = fn() \x7b 1 \x7d; let kept = \x7b1: [one]\x7d; -kept` -/
def failingAfterKeeping : Program :=
  [.bind "one" (.function [] [.evaluate (.integer 1)]),
    .bind "kept" (.hash [(.integer 1, .array [.identifier "one"])]),
    .evaluate (.unary .negate (.identifier "kept"))]

/-- The program fails in the second frame after it has bound a closure and a hash there. The frame
is error-free before and after, which the first one never is. -/
theorem runProgram_errorFree_failing :
    ∃ after, runProgram 3 1 failingAfterKeeping spoiledMachine =
        some (some (.error (.unaryUndefined .negate .hash)), after) ∧
      spoiledMachine.store.ErrorFree 1 ∧ after.store.ErrorFree 1 ∧
      ¬ spoiledMachine.store.ErrorFree 0 := by
  have bare : spoiledMachine.store.frame? 1 = some ⟨[], none⟩ := rfl
  have free : spoiledMachine.store.ErrorFree 1 := by
    intro part reaches
    cases reaches with
    | bound present found =>
        cases bare.symm.trans present
        cases found
    | outer present around =>
        cases bare.symm.trans present
        cases around
  have spoiled : ¬ spoiledMachine.store.ErrorFree 0 := by
    intro free
    have held : spoiledMachine.store.frame? 0 = some ⟨[("spoiled", .error .divisionByZero)], none⟩ :=
      rfl
    exact Bool.noConfusion (free _ (.bound held (rfl : Table.find? "spoiled" _ = _) (.self _)))
  have shows : (runProgram 3 1 failingAfterKeeping spoiledMachine).map Prod.fst =
      some (some (.error (.unaryUndefined .negate .hash))) := by cbv
  obtain ⟨⟨result, after⟩, runs, same⟩ := Option.map_eq_some_iff.mp shows
  obtain ⟨kept, -⟩ := runProgram_errorFree free runs
  exact ⟨after, same ▸ runs, free, kept, spoiled⟩

end MonkeyLang
