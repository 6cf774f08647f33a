import MonkeyLang.Store

/-!
# Computations

A computation starts from a machine: the store of frames, the stamp that the
next closure gets, and the text printed so far.  It comes to an end in one of
three ways, with a value of its own, with a value that is being returned from
the function around it, or with an error; or it is given up because it nests
deeper than was allowed.  The machine that a computation leaves behind counts
however it ended; one that was given up leaves nothing.
-/

set_option autoImplicit false

namespace MonkeyLang

/-! ## Machines and endings -/

/-- What a computation can read and change. -/
structure Machine where
  store : Store
  /-- The stamp of the next closure. -/
  stamp : Nat
  /-- The text printed so far. -/
  printed : String

/-- The machine before anything was computed. -/
def Machine.initial : Machine :=
  ⟨.empty, 0, ""⟩

/-- How a computation comes to an end. -/
inductive Ending (α : Type) where
  | value (value : α)
  | returned (value : Value)
  | failed (cause : RuntimeError)

/-- A computation; `none` is one that was given up. -/
def Computation (α : Type) : Type :=
  Machine → Option (Ending α × Machine)

namespace Computation

variable {α β : Type}

/-- The computation that only has a value. -/
def done (value : α) : Computation α :=
  fun machine => some (.value value, machine)

/-- A computation followed by another one, unless the first returns or fails. -/
def andThen (first : Computation α) (next : α → Computation β) : Computation β :=
  fun machine =>
    match first machine with
    | none => none
    | some (.value value, machine) => next value machine
    | some (.returned value, machine) => some (.returned value, machine)
    | some (.failed cause, machine) => some (.failed cause, machine)

instance : Monad Computation where
  pure := done
  bind := andThen

/-- A computation that has a value goes on with what follows. -/
theorem bind_of_value {first : Computation α} {machine after : Machine} {value : α}
    (ends : first machine = some (.value value, after)) (next : α → Computation β) :
    (first >>= next) machine = next value after := by
  simp only [bind, andThen, ends]

/-- A computation that returns leaves out what follows. -/
theorem bind_of_returned {first : Computation α} {machine after : Machine} {value : Value}
    (ends : first machine = some (.returned value, after)) (next : α → Computation β) :
    (first >>= next) machine = some (.returned value, after) := by
  simp only [bind, andThen, ends]

/-- A computation that fails leaves out what follows. -/
theorem bind_of_failed {first : Computation α} {machine after : Machine} {cause : RuntimeError}
    (ends : first machine = some (.failed cause, after)) (next : α → Computation β) :
    (first >>= next) machine = some (.failed cause, after) := by
  simp only [bind, andThen, ends]

/-- A computation that is given up leaves out what follows. -/
theorem bind_of_none {first : Computation α} {machine : Machine} (ends : first machine = none)
    (next : α → Computation β) : (first >>= next) machine = none := by
  simp only [bind, andThen, ends]

/-- Only the order of computations counts, not how they are grouped. -/
instance : LawfulMonad Computation :=
  LawfulMonad.mk' Computation
    (fun x => by
      funext machine
      change andThen x (fun value => done (id value)) machine = x machine
      simp only [andThen, done, id]
      split <;> simp_all)
    (fun _ _ => rfl)
    (fun x f g => by
      funext machine
      change andThen (andThen x f) g machine = andThen x (fun value => andThen (f value) g) machine
      simp only [andThen]
      cases x machine with
      | none => rfl
      | some reached =>
        obtain ⟨ending, after⟩ := reached
        cases ending <;> rfl)

/-- The computation that is given up. -/
def giveUp : Computation α :=
  fun _ => none

/-- The computation that returns a value from the function around it. -/
def returning (value : Value) : Computation α :=
  fun machine => some (.returned value, machine)

/-- The computation that fails. -/
def fail (cause : RuntimeError) : Computation α :=
  fun machine => some (.failed cause, machine)

/-- The computation that has a result of its own or fails. -/
def ofExcept : Except RuntimeError α → Computation α
  | .ok value => done value
  | .error cause => fail cause

/-- A computation at whose edge a returned value becomes its value. -/
def settle (body : Computation Value) : Computation Value :=
  fun machine =>
    match body machine with
    | some (.returned value, machine) => some (.value value, machine)
    | other => other

/-! ## Using the machine -/

/-- The value of a name as a frame sees it. -/
def lookup? (frame : FrameId) (name : String) : Computation (Option Value) :=
  fun machine => some (.value (machine.store.lookup? frame name), machine)

/-- Binds a name in a frame. -/
def bindName (frame : FrameId) (name : String) (value : Value) : Computation Unit :=
  fun machine => some (.value (), { machine with store := machine.store.bind frame name value })

/-- Opens a frame inside another one. -/
def openFrame (parent : FrameId) : Computation FrameId :=
  fun machine => some (.value machine.store.size,
    { machine with store := machine.store.openFrame (some parent) })

/-- Makes a closure that differs from all others. -/
def newClosure (parameters : List String) (body : Block) (frame : FrameId) :
    Computation Closure :=
  fun machine => some (.value ⟨parameters, body, frame, machine.stamp⟩,
    { machine with stamp := machine.stamp + 1 })

/-- Prints a text. -/
def print (text : String) : Computation Unit :=
  fun machine => some (.value (), { machine with printed := machine.printed ++ text })

/-- Binds names to values in a frame, in order, as far as there are both. -/
def bindNames (frame : FrameId) : List String → List Value → Computation Unit
  | name :: names, value :: values => do
      bindName frame name value
      bindNames frame names values
  | _, _ => done ()

end Computation

end MonkeyLang
