import MonkeyLang.Evaluation.Computation
import MonkeyLang.Proofs.Store.Extension

/-!
# Computations in sequence

What is known of two computations is known of the one after the other. Three
kinds of knowledge are followed here: how a sequence came to its end
(`Computation.of_bind_eq`), that a computation has a value and leaves the machine
as it is (`Computation.Reads`), and that it has a result or fails with an error
while the machine only grows (`Computation.Gives`).
-/

set_option autoImplicit false

namespace MonkeyLang

/-! ## How a sequence ended -/

namespace Computation

variable {α β : Type}

/-- A sequence that ended has ended in its first computation or after it. -/
theorem of_bind_eq {first : Computation α} {next : α → Computation β} {machine after : Machine}
    {ending : Ending β} (ends : (first >>= next) machine = some (ending, after)) :
    (∃ value middle, first machine = some (.value value, middle) ∧
      next value middle = some (ending, after)) ∨
    ∃ early, first machine = some (early, after) := by
  cases run : first machine with
  | none =>
      rw [bind_of_none run] at ends
      cases ends
  | some reached =>
      obtain ⟨early, middle⟩ := reached
      cases early with
      | value value =>
          rw [bind_of_value run] at ends
          exact .inl ⟨value, middle, rfl, ends⟩
      | returned value =>
          rw [bind_of_returned run] at ends
          cases ends
          exact .inr ⟨_, rfl⟩
      | failed cause =>
          rw [bind_of_failed run] at ends
          cases ends
          exact .inr ⟨_, rfl⟩

/-- A sequence that has a value has it from what follows the first computation. -/
theorem of_bind_eq_value {first : Computation α} {next : α → Computation β}
    {machine after : Machine} {result : β}
    (ends : (first >>= next) machine = some (.value result, after)) :
    ∃ value middle, first machine = some (.value value, middle) ∧
      next value middle = some (.value result, after) := by
  rcases of_bind_eq ends with ⟨value, middle, run, rest⟩ | ⟨early, run⟩
  · exact ⟨value, middle, run, rest⟩
  · cases early with
    | value value =>
        rw [bind_of_value run] at ends
        exact ⟨value, after, run, ends⟩
    | returned value =>
        rw [bind_of_returned run] at ends
        cases ends
    | failed cause =>
        rw [bind_of_failed run] at ends
        cases ends

/-! ## Values read off a machine -/

/-- The computation has this value and leaves the machine as it is. -/
def Reads (computation : Computation α) (machine : Machine) (value : α) : Prop :=
  computation machine = some (.value value, machine)

theorem Reads.bind {machine : Machine} {first : Computation α} {next : α → Computation β}
    {value : α} {result : β} (reads : first.Reads machine value)
    (others : (next value).Reads machine result) : (first >>= next).Reads machine result :=
  (bind_of_value reads next).trans others

theorem reads_pure {machine : Machine} (value : α) :
    (pure value : Computation α).Reads machine value := rfl

theorem Reads.map {machine : Machine} {computation : Computation α} {value : α}
    (reads : computation.Reads machine value) (f : α → β) :
    (f <$> computation).Reads machine (f value) := by
  rw [← bind_pure_comp]
  exact reads.bind (reads_pure (f value))

theorem Reads.settle {machine : Machine} {body : Computation Value} {value : Value}
    (reads : body.Reads machine value) : body.settle.Reads machine value := by
  rw [Reads, Computation.settle, reads]

theorem reads_lookup? (machine : Machine) (frame : FrameId) (name : String) :
    (lookup? frame name).Reads machine (machine.store.lookup? frame name) := rfl

end Computation

/-! ## Growing machines -/

/-- Only the store is another one, and it only grew. -/
structure Machine.Grows (before after : Machine) : Prop where
  store : before.store.Extends after.store
  stamp : after.stamp = before.stamp
  printed : after.printed = before.printed

theorem Machine.Grows.refl (machine : Machine) : machine.Grows machine :=
  ⟨.refl _, rfl, rfl⟩

theorem Machine.Grows.trans {before middle after : Machine} (first : before.Grows middle)
    (second : middle.Grows after) : before.Grows after :=
  ⟨first.store.trans second.store, second.stamp.trans first.stamp,
    second.printed.trans first.printed⟩

/-- The ending with a result or with the error in its place. -/
def Ending.ofExcept {α : Type} : Except RuntimeError α → Ending α
  | .ok result => .value result
  | .error cause => .failed cause

/-- From every machine that the first one grew to, the computation ends with this result, and the
machine only grows. -/
def Computation.Gives {α : Type} (computation : Computation α) (start : Machine)
    (result : Except RuntimeError α) : Prop :=
  ∀ machine, start.Grows machine → ∃ after,
    computation machine = some (.ofExcept result, after) ∧ machine.Grows after

namespace Computation

variable {α β : Type} {start : Machine}

theorem gives_pure (value : α) : (pure value : Computation α).Gives start (pure value) :=
  fun machine _ => ⟨machine, rfl, .refl machine⟩

theorem gives_fail (cause : RuntimeError) :
    (fail cause : Computation α).Gives start (throw cause) :=
  fun machine _ => ⟨machine, rfl, .refl machine⟩

theorem Gives.bind {first : Computation α} {next : α → Computation β}
    {result : Except RuntimeError α} {rest : α → Except RuntimeError β}
    (gives : first.Gives start result) (others : ∀ value, (next value).Gives start (rest value)) :
    (first >>= next).Gives start (result >>= rest) := by
  intro machine grown
  obtain ⟨middle, run, grows⟩ := gives machine grown
  cases result with
  | error cause => exact ⟨middle, bind_of_failed run next, grows⟩
  | ok value =>
      obtain ⟨after, ends, more⟩ := others value middle (grown.trans grows)
      exact ⟨after, (bind_of_value run next).trans ends, grows.trans more⟩

end Computation

end MonkeyLang
