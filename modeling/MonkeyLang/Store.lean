import MonkeyLang.Text.Quoted
import MonkeyLang.Value

/-!
# Frames of names

Names are bound in frames.  A frame may have a parent, and a name that a frame
does not bind is looked up in its parent.  The store holds all frames, numbered
in the order in which they were opened; it only grows, and only one binding of
one frame changes at a time.

Every parent was opened before its child.  This is part of the type of a store,
and it is what makes a lookup end.
-/

set_option autoImplicit false

namespace MonkeyLang

/-! ## Frames and stores -/

/-- Names with their values, and the frame around them. -/
structure Frame where
  bindings : Table String Value
  parent : Option FrameId

/-- A frame with a name bound. -/
def Frame.bind (frame : Frame) (name : String) (value : Value) : Frame :=
  { frame with bindings := frame.bindings.set name value }

/-- All frames that were opened. -/
structure Store where
  frames : Array Frame
  /-- Every parent is older than its child. -/
  older : ∀ (child : FrameId) (frame : Frame) (parent : FrameId),
    frames[child]? = some frame → frame.parent = some parent → parent < child

namespace Store

/-- The store without frames. -/
def empty : Store where
  frames := #[]
  older := by simp

/-- The number of frames. -/
def size (store : Store) : Nat :=
  store.frames.size

/-- The frame of a number. -/
def frame? (store : Store) (id : FrameId) : Option Frame :=
  store.frames[id]?

/-- A frame without bindings in a given frame; a number that names no frame is no parent. -/
def newFrame (store : Store) (parent : Option FrameId) : Frame where
  bindings := []
  parent := parent.filter (· < store.size)

theorem newFrame_parent_lt {store : Store} {wanted : Option FrameId} {parent : FrameId}
    (found : (store.newFrame wanted).parent = some parent) : parent < store.size := by
  simp only [newFrame, Option.filter_eq_some_iff, decide_eq_true_eq] at found
  exact found.2

/-- A store with one more frame, whose number is the size of the store before. -/
def openFrame (store : Store) (parent : Option FrameId) : Store where
  frames := store.frames.push (store.newFrame parent)
  older := by
    intro child frame wanted found isParent
    rw [Array.getElem?_push] at found
    split at found
    · next last =>
      subst last
      cases found
      exact newFrame_parent_lt isParent
    · exact store.older child frame wanted found isParent

/-- A store with a name bound in one frame. -/
def bind (store : Store) (id : FrameId) (name : String) (value : Value) : Store where
  frames := store.frames.modify id (·.bind name value)
  older := by
    intro child frame parent found isParent
    rw [Array.getElem?_modify] at found
    split at found
    · simp only [Option.map_eq_some_iff] at found
      obtain ⟨before, present, rfl⟩ := found
      exact store.older child before parent present isParent
    · exact store.older child frame parent found isParent

/-- The value of a name as a frame sees it: its own binding, or else what its parent sees. -/
def lookup? (store : Store) (id : FrameId) (name : String) : Option Value :=
  match found : store.frame? id with
  | none => none
  | some frame =>
    match frame.bindings.find? name with
    | some value => some value
    | none =>
      match outer : frame.parent with
      | none => none
      | some parent =>
        have _older : parent < id := store.older id frame parent found outer
        store.lookup? parent name
termination_by id

/-- A name that a frame binds has that value there. -/
theorem lookup?_of_bound {store : Store} {id : FrameId} {frame : Frame} {name : String}
    {value : Value} (found : store.frame? id = some frame)
    (bound : frame.bindings.find? name = some value) : store.lookup? id name = some value := by
  rw [lookup?]
  split <;> simp_all

/-- A name that a frame does not bind has the value that the parent sees. -/
theorem lookup?_of_parent {store : Store} {id parent : FrameId} {frame : Frame} {name : String}
    (found : store.frame? id = some frame) (unbound : frame.bindings.find? name = none)
    (outer : frame.parent = some parent) : store.lookup? id name = store.lookup? parent name := by
  rw [lookup?]
  split
  · simp_all
  · next present =>
    cases found.symm.trans present
    simp only [unbound]
    split <;> simp_all

/-- A name that the outermost frame does not bind has no value. -/
theorem lookup?_of_outermost {store : Store} {id : FrameId} {frame : Frame} {name : String}
    (found : store.frame? id = some frame) (unbound : frame.bindings.find? name = none)
    (outermost : frame.parent = none) : store.lookup? id name = none := by
  rw [lookup?]
  split
  · rfl
  · next present =>
    cases found.symm.trans present
    simp only [unbound]
    split <;> simp_all

/-- A number that names no frame sees no name. -/
theorem lookup?_of_missing {store : Store} {id : FrameId} (missing : store.frame? id = none)
    (name : String) : store.lookup? id name = none := by
  rw [lookup?]
  split <;> simp_all

/-! ## Showing a frame -/

/-- The text that shows a frame: its own names, in order, and whether it has a parent. -/
def describe (store : Store) (id : FrameId) : String :=
  let names := ((store.frame? id).map fun frame => frame.bindings.keys).getD []
  let enclosed := ((store.frame? id).bind Frame.parent).isSome
  "Environment \x7b bindings: [" ++ commaSeparated (names.map Text.quoted) ++ "], enclosed: " ++
    (if enclosed then "true" else "false") ++ " \x7d"

end Store

end MonkeyLang
