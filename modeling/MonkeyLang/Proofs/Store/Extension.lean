import MonkeyLang.Store

/-!
# Stores that only grew

A store extends another one when every frame of the other is still there,
unchanged. Opening a frame gives an extension, and so does binding a name in a
frame that was not there before. What a frame sees of a name is the same in
every extension, because its ancestors are frames of the first store too
(`Extends.lookup?_eq`).
-/

set_option autoImplicit false

namespace MonkeyLang.Store

/-! ## Frames after one change -/

@[simp]
theorem size_openFrame (store : Store) (parent : Option FrameId) :
    (store.openFrame parent).size = store.size + 1 :=
  Array.size_push _

@[simp]
theorem size_bind (store : Store) (id : FrameId) (name : String) (value : Value) :
    (store.bind id name value).size = store.size :=
  Array.size_modify

theorem frame?_isSome {store : Store} {id : FrameId} :
    (store.frame? id).isSome = true ↔ id < store.size := by
  rw [frame?, isSome_getElem?]
  rfl

theorem frame?_eq_none {store : Store} {id : FrameId} (missing : store.size ≤ id) :
    store.frame? id = none :=
  Array.getElem?_eq_none missing

/-- An older frame stays when one is opened. -/
theorem frame?_openFrame_of_lt {store : Store} {id : FrameId} (old : id < store.size)
    (parent : Option FrameId) : (store.openFrame parent).frame? id = store.frame? id := by
  have distinct : id ≠ store.frames.size := Nat.ne_of_lt old
  rw [frame?, openFrame, Array.getElem?_push, if_neg distinct]
  rfl

/-- The frame that was opened. -/
@[simp]
theorem frame?_openFrame_self (store : Store) (parent : Option FrameId) :
    (store.openFrame parent).frame? store.size = some (store.newFrame parent) :=
  Array.getElem?_push_size

/-- The frame that was opened, or an older one. -/
theorem frame?_openFrame (store : Store) (parent : Option FrameId) (id : FrameId) :
    (store.openFrame parent).frame? id =
      if id = store.size then some (store.newFrame parent) else store.frame? id :=
  Array.getElem?_push

/-- A binding changes no other frame. -/
theorem frame?_bind_of_ne {id other : FrameId} (distinct : other ≠ id) (store : Store)
    (name : String) (value : Value) :
    (store.bind id name value).frame? other = store.frame? other := by
  rw [frame?, bind, Array.getElem?_modify, if_neg (Ne.symm distinct)]
  rfl

/-- The frame with the binding. -/
@[simp]
theorem frame?_bind_self (store : Store) (id : FrameId) (name : String) (value : Value) :
    (store.bind id name value).frame? id = (store.frame? id).map (·.bind name value) := by
  rw [frame?, bind, Array.getElem?_modify, if_pos rfl]
  rfl

/-! ## Extensions -/

/-- Every frame of the store before is there in the store after, unchanged. -/
structure Extends (before after : Store) : Prop where
  size_le : before.size ≤ after.size
  frame?_eq : ∀ id < before.size, after.frame? id = before.frame? id

namespace Extends

theorem refl (store : Store) : store.Extends store :=
  ⟨Nat.le_refl _, fun _ _ => rfl⟩

theorem trans {before middle after : Store} (first : before.Extends middle)
    (second : middle.Extends after) : before.Extends after := by
  refine ⟨Nat.le_trans first.size_le second.size_le, ?_⟩
  intro id old
  rw [second.frame?_eq id (Nat.lt_of_lt_of_le old first.size_le), first.frame?_eq id old]

theorem openFrame (store : Store) (parent : Option FrameId) :
    store.Extends (store.openFrame parent) :=
  ⟨by simp, fun _ old => frame?_openFrame_of_lt old parent⟩

/-- A binding in a frame that is new changes no frame that was there. -/
theorem bind {before after : Store} (extended : before.Extends after) {id : FrameId}
    (new : before.size ≤ id) (name : String) (value : Value) :
    before.Extends (after.bind id name value) := by
  refine ⟨by simpa using extended.size_le, ?_⟩
  intro other old
  have distinct : other ≠ id := Nat.ne_of_lt (Nat.lt_of_lt_of_le old new)
  rw [frame?_bind_of_ne distinct, extended.frame?_eq other old]

/-- A frame sees the same names in every extension. -/
theorem lookup?_eq {before after : Store} (extended : before.Extends after) (name : String) :
    ∀ {id : FrameId}, id < before.size → after.lookup? id name = before.lookup? id name := by
  intro id
  -- On the number of the frame: a parent has a smaller one.
  induction id using Nat.strongRecOn with
  | ind id ih =>
      intro old
      obtain ⟨frame, present⟩ := Option.isSome_iff_exists.mp (frame?_isSome.mpr old)
      have after_present := (extended.frame?_eq id old).trans present
      cases bound : frame.bindings.find? name with
      | some value => rw [lookup?_of_bound present bound, lookup?_of_bound after_present bound]
      | none =>
          cases outer : frame.parent with
          | none =>
              rw [lookup?_of_outermost present bound outer,
                lookup?_of_outermost after_present bound outer]
          | some parent =>
              have older : parent < id := before.older id frame parent present outer
              rw [lookup?_of_parent present bound outer,
                lookup?_of_parent after_present bound outer,
                ih parent older (Nat.lt_trans older old)]

end Extends

end MonkeyLang.Store
