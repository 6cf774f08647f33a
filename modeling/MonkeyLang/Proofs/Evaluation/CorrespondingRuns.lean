import MonkeyLang.Proofs.Evaluation.Correspondence
import MonkeyLang.Proofs.Evaluation.Sequencing

/-!
# Corresponding runs

Machines correspond when corresponding frames bind corresponding values, the same
frames were opened and the same text was printed since the runs began. Two
computations run alike when they take corresponding machines to corresponding
machines and end in the same way, with corresponding values or with the same
error; or both are given up. This is closed under sequencing, and everything that
a computation can do with its machine runs alike.
-/

set_option autoImplicit false

namespace MonkeyLang

namespace Correspondence

variable {corr : Correspondence}

/-! ## Frames -/

/-- A frame corresponds to one frame only. -/
theorem Frames.eq_iff {frame frame' other other' : FrameId} (first : corr.Frames frame frame')
    (second : corr.Frames other other') : other = frame ↔ other' = frame' := by
  rcases first with ⟨shared, rfl⟩ | ⟨opened, rfl, rfl⟩
  · have old := corr.shared_lt shared
    rcases second with ⟨_, rfl⟩ | ⟨opened, rfl, rfl⟩
    · exact Iff.rfl
    · unfold FrameId at *
      omega
  · rcases second with ⟨shared, rfl⟩ | ⟨opened', rfl, rfl⟩
    · have old := corr.shared_lt shared
      unfold FrameId at *
      omega
    · unfold FrameId at *
      omega

/-- Frames with corresponding parents that bind the visible names to corresponding values. -/
structure Contents (corr : Correspondence) (frame frame' : Frame) : Prop where
  bindings : ∀ {name}, corr.visible name →
    Option.Rel corr.Values (frame.bindings.find? name) (frame'.bindings.find? name)
  parents : Option.Rel corr.Frames frame.parent frame'.parent

theorem Contents.bind {frame frame' : Frame} (contents : corr.Contents frame frame')
    (name : String) {value value' : Value} (values : corr.Values value value') :
    corr.Contents (frame.bind name value) (frame'.bind name value') := by
  refine ⟨?_, contents.parents⟩
  intro seen visible
  rw [Frame.bind, Frame.bind]
  by_cases same : seen = name
  · rw [same, Table.find?_set_self, Table.find?_set_self]
    exact .some values
  · rw [Table.find?_set_of_ne same, Table.find?_set_of_ne same]
    exact contents.bindings visible

/-! ## Machines -/

/-- Machines that got from the beginning of their runs to the same place. -/
structure Machines (corr : Correspondence) (machine machine' : Machine) : Prop where
  opened : ∃ opened, machine.store.size = corr.left.store.size + opened ∧
    machine'.store.size = corr.right.store.size + opened
  contents : ∀ {frame frame'}, corr.Frames frame frame' →
    Option.Rel corr.Contents (machine.store.frame? frame) (machine'.store.frame? frame')
  printed : ∃ text, machine.printed = corr.left.printed ++ text ∧
    machine'.printed = corr.right.printed ++ text

namespace Machines

variable {machine machine' : Machine} {frame frame' : FrameId}

/-- Corresponding frames see corresponding values of visible names. -/
theorem lookup? (machines : corr.Machines machine machine') (frames : corr.Frames frame frame')
    {name : String} (visible : corr.visible name) :
    Option.Rel corr.Values (machine.store.lookup? frame name)
      (machine'.store.lookup? frame' name) := by
  -- On the number of the frame: a parent has a smaller one.
  induction frame using Nat.strongRecOn generalizing frame' with
  | ind frame ih =>
      have contents := machines.contents frames
      generalize present : machine.store.frame? frame = found at contents
      generalize present' : machine'.store.frame? frame' = found' at contents
      cases contents with
      | none =>
          rw [Store.lookup?_of_missing present, Store.lookup?_of_missing present']
          exact .none
      | @some inside inside' contents =>
          have values := contents.bindings visible
          generalize bound : inside.bindings.find? name = known at values
          generalize bound' : inside'.bindings.find? name = known' at values
          cases values with
          | some values =>
              rw [Store.lookup?_of_bound present bound, Store.lookup?_of_bound present' bound']
              exact .some values
          | none =>
              have parents := contents.parents
              generalize outer : inside.parent = parent at parents
              generalize outer' : inside'.parent = parent' at parents
              cases parents with
              | none =>
                  rw [Store.lookup?_of_outermost present bound outer,
                    Store.lookup?_of_outermost present' bound' outer']
                  exact .none
              | @some parent parent' frames =>
                  rw [Store.lookup?_of_parent present bound outer,
                    Store.lookup?_of_parent present' bound' outer']
                  exact ih parent (machine.store.older frame inside parent present outer) frames

/-- Corresponding frames are both there or both not. -/
theorem lt_iff (machines : corr.Machines machine machine')
    (frames : corr.Frames frame frame') :
    frame < machine.store.size ↔ frame' < machine'.store.size := by
  rw [← Store.frame?_isSome, ← Store.frame?_isSome, rel_isSome (machines.contents frames)]

/-- The next frames that are opened correspond. -/
theorem next (machines : corr.Machines machine machine') :
    corr.Frames machine.store.size machine'.store.size :=
  .inr machines.opened

/-- A name bound on both sides. -/
theorem bind (machines : corr.Machines machine machine') (frames : corr.Frames frame frame')
    (name : String) {value value' : Value} (values : corr.Values value value') :
    corr.Machines { machine with store := machine.store.bind frame name value }
      { machine' with store := machine'.store.bind frame' name value' } := by
  refine ⟨?_, ?_, machines.printed⟩
  · simpa using machines.opened
  · intro seen seen' sees
    by_cases same : seen = frame
    · have same' := (frames.eq_iff sees).mp same
      rw [same, same', Store.frame?_bind_self, Store.frame?_bind_self]
      exact rel_map (machines.contents frames) fun contents => contents.bind name values
    · have same' := mt (frames.eq_iff sees).mpr same
      rw [Store.frame?_bind_of_ne same, Store.frame?_bind_of_ne same']
      exact machines.contents sees

/-- A frame opened on both sides. -/
theorem openFrame (machines : corr.Machines machine machine') {outer outer' : Option FrameId}
    (frames : Option.Rel corr.Frames outer outer') :
    corr.Machines { machine with store := machine.store.openFrame outer }
      { machine' with store := machine'.store.openFrame outer' } := by
  refine ⟨?_, ?_, machines.printed⟩
  · obtain ⟨opened, size, size'⟩ := machines.opened
    refine ⟨opened + 1, ?_, ?_⟩
    · rw [Store.size_openFrame, size, Nat.add_assoc]
    · rw [Store.size_openFrame, size', Nat.add_assoc]
  · intro seen seen' sees
    rw [Store.frame?_openFrame, Store.frame?_openFrame]
    by_cases last : seen = machine.store.size
    · rw [if_pos last, if_pos ((machines.next.eq_iff sees).mp last)]
      refine .some ⟨fun _ => .none, ?_⟩
      rw [Store.newFrame, Store.newFrame]
      cases frames with
      | none => exact .none
      | @some frame frame' frames =>
          simp only [Option.filter_some, decide_eq_true_eq]
          by_cases inside : frame < machine.store.size
          · rw [if_pos inside, if_pos ((machines.lt_iff frames).mp inside)]
            exact .some frames
          · rw [if_neg inside, if_neg (mt (machines.lt_iff frames).mpr inside)]
            exact .none
    · rw [if_neg last, if_neg (mt (machines.next.eq_iff sees).mpr last)]
      exact machines.contents sees

theorem print (machines : corr.Machines machine machine') (text : String) :
    corr.Machines { machine with printed := machine.printed ++ text }
      { machine' with printed := machine'.printed ++ text } := by
  obtain ⟨before, printed, printed'⟩ := machines.printed
  refine ⟨machines.opened, machines.contents, before ++ text, ?_, ?_⟩
  · rw [printed, String.append_assoc]
  · rw [printed', String.append_assoc]

end Machines

/-! ## Runs -/

section Runs

variable {α β : Type}

/-- The same ending: with values of which the property holds, with corresponding values returned,
or with the same error. -/
inductive Endings (corr : Correspondence) (related : α → α → Prop) : Ending α → Ending α → Prop where
  | value {value value' : α} (holds : related value value') :
    Endings corr related (.value value) (.value value')
  | returned {value value' : Value} (values : corr.Values value value') :
    Endings corr related (.returned value) (.returned value')
  | failed (cause : RuntimeError) : Endings corr related (.failed cause) (.failed cause)

/-- The same ending on corresponding machines. -/
structure Reached (corr : Correspondence) (related : α → α → Prop)
    (reached reached' : Ending α × Machine) : Prop where
  endings : corr.Endings related reached.1 reached'.1
  machines : corr.Machines reached.2 reached'.2

/-- From corresponding machines both computations reach the same ending, or both are given up. -/
def Runs (corr : Correspondence) (related : α → α → Prop) (computation computation' : Computation α) :
    Prop :=
  ∀ machine machine', corr.Machines machine machine' →
    Option.Rel (corr.Reached related) (computation machine) (computation' machine')

variable {related : α → α → Prop} {related' : β → β → Prop}

theorem runs_pure {value value' : α} (holds : related value value') :
    corr.Runs related (pure value) (pure value') :=
  fun _ _ machines => .some ⟨.value holds, machines⟩

theorem runs_giveUp : corr.Runs related Computation.giveUp Computation.giveUp :=
  fun _ _ _ => .none

theorem runs_returning {value value' : Value} (values : corr.Values value value') :
    corr.Runs related (Computation.returning value) (Computation.returning value') :=
  fun _ _ machines => .some ⟨.returned values, machines⟩

theorem runs_fail (cause : RuntimeError) :
    corr.Runs related (Computation.fail cause) (Computation.fail cause) :=
  fun _ _ machines => .some ⟨.failed cause, machines⟩

theorem runs_ofExcept {result result' : Except RuntimeError α}
    (results : Results related result result') :
    corr.Runs related (Computation.ofExcept result) (Computation.ofExcept result') := by
  cases results with
  | ok holds => exact runs_pure holds
  | error cause => exact runs_fail cause

theorem Runs.bind {first first' : Computation α} {next next' : α → Computation β}
    (runs : corr.Runs related first first')
    (others : ∀ {value value'}, related value value' →
      corr.Runs related' (next value) (next' value')) :
    corr.Runs related' (first >>= next) (first' >>= next') := by
  intro machine machine' machines
  have reached := runs machine machine' machines
  generalize run : first machine = ended at reached
  generalize run' : first' machine' = ended' at reached
  cases reached with
  | none =>
      rw [Computation.bind_of_none run, Computation.bind_of_none run']
      exact .none
  | @some ended ended' reached =>
      obtain ⟨ending, after⟩ := ended
      obtain ⟨ending', after'⟩ := ended'
      obtain ⟨endings, machines⟩ := reached
      cases endings with
      | value holds =>
          rw [Computation.bind_of_value run, Computation.bind_of_value run']
          exact others holds after after' machines
      | returned values =>
          rw [Computation.bind_of_returned run, Computation.bind_of_returned run']
          exact .some ⟨.returned values, machines⟩
      | failed cause =>
          rw [Computation.bind_of_failed run, Computation.bind_of_failed run']
          exact .some ⟨.failed cause, machines⟩

theorem Runs.settle {body body' : Computation Value} (runs : corr.Runs corr.Values body body') :
    corr.Runs corr.Values body.settle body'.settle := by
  intro machine machine' machines
  have reached := runs machine machine' machines
  rw [Computation.settle, Computation.settle]
  generalize body machine = ended at reached ⊢
  generalize body' machine' = ended' at reached ⊢
  cases reached with
  | none => exact .none
  | @some ended ended' reached =>
      obtain ⟨ending, after⟩ := ended
      obtain ⟨ending', after'⟩ := ended'
      obtain ⟨endings, machines⟩ := reached
      cases endings with
      | value values => exact .some ⟨.value values, machines⟩
      | returned values => exact .some ⟨.value values, machines⟩
      | failed cause => exact .some ⟨.failed cause, machines⟩

/-- What is known of a run that corresponds to itself. -/
theorem Runs.self {computation : Computation α} (runs : corr.Runs related computation computation)
    {machine after : Machine} {ending : Ending α} (machines : corr.Machines machine machine)
    (ends : computation machine = some (ending, after)) :
    corr.Endings related ending ending ∧ corr.Machines after after := by
  have reached := runs machine machine machines
  rw [ends] at reached
  cases reached with
  | some reached => exact ⟨reached.endings, reached.machines⟩

/-! ### Using the machine -/

variable {frame frame' : FrameId}

theorem runs_lookup? (frames : corr.Frames frame frame') {name : String}
    (visible : corr.visible name) :
    corr.Runs (Option.Rel corr.Values) (Computation.lookup? frame name)
      (Computation.lookup? frame' name) :=
  fun _ _ machines => .some ⟨.value (machines.lookup? frames visible), machines⟩

theorem runs_bindName (frames : corr.Frames frame frame') (name : String) {value value' : Value}
    (values : corr.Values value value') :
    corr.Runs Eq (Computation.bindName frame name value)
      (Computation.bindName frame' name value') :=
  fun _ _ machines => .some ⟨.value rfl, machines.bind frames name values⟩

theorem runs_bindNames (frames : corr.Frames frame frame') :
    ∀ (names : List String) {values values' : List Value}, corr.Lists values values' →
      corr.Runs Eq (Computation.bindNames frame names values)
        (Computation.bindNames frame' names values')
  | [], _, _, lists => by
    cases lists <;> exact runs_pure rfl
  | _ :: _, _, _, .nil => runs_pure rfl
  | name :: names, _, _, .cons head tail =>
    (runs_bindName frames name head).bind fun _ => runs_bindNames frames names tail

theorem runs_openFrame (frames : corr.Frames frame frame') :
    corr.Runs corr.Frames (Computation.openFrame frame) (Computation.openFrame frame') :=
  fun _ _ machines => .some ⟨.value machines.next, machines.openFrame (.some frames)⟩

theorem runs_newClosure (frames : corr.Frames frame frame') {parameters : List String}
    {body : Block} (names : ∀ parameter ∈ parameters, corr.trees.name parameter)
    (statements : corr.trees.statements body) :
    corr.Runs corr.Closures (Computation.newClosure parameters body frame)
      (Computation.newClosure parameters body frame') :=
  fun _ _ machines => .some ⟨.value ⟨rfl, rfl, names, statements, frames⟩,
    machines.opened, machines.contents, machines.printed⟩

theorem runs_print (text : String) :
    corr.Runs Eq (Computation.print text) (Computation.print text) :=
  fun _ _ machines => .some ⟨.value rfl, machines.print text⟩

end Runs

end Correspondence

end MonkeyLang
