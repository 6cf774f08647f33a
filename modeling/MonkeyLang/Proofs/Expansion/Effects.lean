import MonkeyLang.Expansion
import MonkeyLang.Proofs.Evaluation.FrameEffects
import MonkeyLang.Proofs.Syntax.Traversing

/-!
# What expansion leaves alone

Expanding a program changes no frame that was there before, whatever the bodies of
its macros bind or call, and it gives a program or fails
(`expands_expandMacros`): the body of a macro runs in a frame of its own, and a
`return` in it goes no further than the macro call. Where no name is bound to a
macro, expansion gives back the program and does nothing else
(`reads_expandMacros`).
-/

set_option autoImplicit false

namespace MonkeyLang

namespace Computation

variable {α β : Type} {inside : α → Prop} {inside' : β → Prop}

/-! ## Computations that return nothing -/

/-- However it ends, the computation ends with a value that is inside, or fails. -/
def Settles (inside : α → Prop) (computation : Computation α) : Prop :=
  ∀ machine ending after, computation machine = some (ending, after) →
    (∃ value, ending = .value value ∧ inside value) ∨ ∃ cause, ending = .failed cause

theorem settles_pure {value : α} (holds : inside value) :
    (pure value : Computation α).Settles inside := by
  rintro _ _ _ ⟨⟩
  exact .inl ⟨value, rfl, holds⟩

theorem settles_fail (cause : RuntimeError) : (fail cause : Computation α).Settles inside := by
  rintro _ _ _ ⟨⟩
  exact .inr ⟨cause, rfl⟩

theorem settles_lookup? (frame : FrameId) (name : String) :
    (lookup? frame name).Settles fun _ => True := by
  rintro _ _ _ ⟨⟩
  exact .inl ⟨_, rfl, trivial⟩

theorem settles_openFrame (parent : FrameId) : (openFrame parent).Settles fun _ => True := by
  rintro _ _ _ ⟨⟩
  exact .inl ⟨_, rfl, trivial⟩

theorem settles_bindName (frame : FrameId) (name : String) (value : Value) :
    (bindName frame name value).Settles fun _ => True := by
  rintro _ _ _ ⟨⟩
  exact .inl ⟨_, rfl, trivial⟩

theorem settles_settle (body : Computation Value) : body.settle.Settles fun _ => True := by
  intro machine ending after ends
  rw [settle] at ends
  split at ends
  · cases ends
    exact .inl ⟨_, rfl, trivial⟩
  · next other =>
    cases ending with
    | value value => exact .inl ⟨value, rfl, trivial⟩
    | returned value => exact absurd ends (other value after)
    | failed cause => exact .inr ⟨cause, rfl⟩

theorem Settles.bind {first : Computation α} {next : α → Computation β}
    (settles : first.Settles inside)
    (others : ∀ value, inside value → (next value).Settles inside') :
    (first >>= next).Settles inside' := by
  intro machine ending after ends
  cases run : first machine with
  | none =>
      rw [bind_of_none run] at ends
      cases ends
  | some reached =>
      obtain ⟨early, middle⟩ := reached
      rcases settles machine early middle run with ⟨value, rfl, holds⟩ | ⟨cause, rfl⟩
      · rw [bind_of_value run] at ends
        exact others value holds middle ending after ends
      · rw [bind_of_failed run] at ends
        cases ends
        exact .inr ⟨cause, rfl⟩

theorem settles_bindNames (frame : FrameId) : ∀ (names : List String) (values : List Value),
    (bindNames frame names values).Settles fun _ => True
  | [], _ => by
    rw [bindNames]
    · exact settles_pure trivial
    · rintro _ _ _ _ ⟨⟩
  | _ :: _, [] => settles_pure trivial
  | name :: names, value :: values =>
    (settles_bindName frame name value).bind fun _ _ => settles_bindNames frame names values

/-! ## Computations that leave the frames as they were -/

/-- The computation settles, and however it ends every frame that was there is as it was. -/
structure Expands (inside : α → Prop) (computation : Computation α) : Prop where
  settles : computation.Settles inside
  keeps : ∀ {machine ending after}, computation machine = some (ending, after) →
    machine.store.Extends after.store

theorem expands_pure {value : α} (holds : inside value) :
    (pure value : Computation α).Expands inside :=
  ⟨settles_pure holds, by rintro _ _ _ ⟨⟩; exact .refl _⟩

theorem expands_fail (cause : RuntimeError) : (fail cause : Computation α).Expands inside :=
  ⟨settles_fail cause, by rintro _ _ _ ⟨⟩; exact .refl _⟩

theorem expands_lookup? (frame : FrameId) (name : String) :
    (lookup? frame name).Expands fun _ => True :=
  ⟨settles_lookup? frame name, by rintro _ _ _ ⟨⟩; exact .refl _⟩

theorem Expands.bind {first : Computation α} {next : α → Computation β}
    (expands : first.Expands inside)
    (others : ∀ value, inside value → (next value).Expands inside') :
    (first >>= next).Expands inside' := by
  refine ⟨expands.settles.bind fun value holds => (others value holds).settles, ?_⟩
  intro machine ending after ends
  rcases of_bind_eq ends with ⟨value, middle, run, rest⟩ | ⟨early, run⟩
  · rcases expands.settles _ _ _ run with ⟨_, ⟨⟩, holds⟩ | ⟨_, ⟨⟩⟩
    exact (expands.keeps run).trans ((others _ holds).keeps rest)
  · exact expands.keeps run

end Computation

open MonkeyLang.Computation

/-! ## Effects of an expansion -/

/-- Computations that build trees and leave the frames as they were. -/
def Relator.expanding : Relator Computation Computation where
  Builds inside computation _ := computation.Expands inside
  builds_pure := expands_pure
  builds_bind := Expands.bind

namespace Evaluator

variable {evaluator : Evaluator} {macros : FrameId}

/-- A macro call changes no frame that was there before, and what its body returns is the value of
the body. -/
theorem Confined.expandCall (confined : evaluator.Confined) (closure : Closure)
    (arguments : List Expression) :
    (evaluator.expandCall closure arguments).Expands fun _ => True := by
  rw [Evaluator.expandCall]
  split
  · constructor
    · refine (settles_openFrame _).bind fun frame _ => ?_
      refine (settles_bindNames frame _ _).bind fun _ _ => ?_
      refine (settles_settle _).bind fun value _ => ?_
      split
      · exact settles_pure trivial
      · exact settles_fail _
    · intro machine ending after ends
      refine extends_of_openFrame (closure.parameters ++ boundNamesOfStatements closure.body)
        (fun frame => ?_) ends
      refine (confined_bindNames (List.subset_append_left _ _) _).bind fun _ => ?_
      refine (confined.block (List.subset_append_right _ _)).settle.bind fun value => ?_
      split
      · exact confined_pure _
      · exact confined_fail _
  · exact expands_fail _

theorem expands_macroNamed? (callee : Expression) :
    (macroNamed? macros callee).Expands fun _ => True := by
  unfold macroNamed?
  split
  · refine (expands_lookup? macros _).bind fun found _ => ?_
    split <;> exact expands_pure trivial
  · exact expands_pure trivial

theorem Confined.expandNode (confined : evaluator.Confined) (expression : Expression) :
    (evaluator.expandNode macros expression).Expands fun _ => True := by
  unfold Evaluator.expandNode
  split
  · refine (expands_macroNamed? _).bind fun found _ => ?_
    split
    · exact confined.expandCall _ _
    · exact expands_pure trivial
  · exact expands_pure trivial

theorem Confined.expander (confined : evaluator.Confined) :
    Relator.expanding.Handles .all (evaluator.expander macros) (evaluator.expander macros) where
  statement _ walk := walk
  block _ walk := walk
  expression _ walk := walk.bind fun walked _ => confined.expandNode walked

end Evaluator

/-- **Expansion changes no frame that was there before**, however it ends, and it ends with a
program or an error. -/
theorem expands_expandMacros (depth : Nat) (macros : FrameId) (program : Program) :
    (expandMacros depth macros program).Expands fun _ => True :=
  (confined_evaluate depth).expander.onStatements trivial

/-! ## Expansion without macros -/

/-- A computation that builds a tree without any effect on the machine, and the tree. -/
def Relator.reading (machine : Machine) : Relator Computation Id where
  Builds inside computation tree := computation.Reads machine tree ∧ inside tree
  builds_pure holds := ⟨reads_pure _, holds⟩
  builds_bind first others :=
    ⟨first.1.bind (others _ first.2).1, (others _ first.2).2⟩

/-- The frame sees no macro. -/
def Store.NoMacros (store : Store) (macros : FrameId) : Prop :=
  ∀ name closure, store.lookup? macros name ≠ some (.macroValue closure)

/-- The expression is the call of a name under which the frame sees a macro. -/
inductive Expression.CallsMacro (store : Store) (macros : FrameId) : Expression → Prop where
  | call {name : String} {closure : Closure}
      (found : store.lookup? macros name = some (.macroValue closure))
      (arguments : List Expression) : CallsMacro store macros (.call (.identifier name) arguments)

theorem Store.NoMacros.not_callsMacro {store : Store} {macros : FrameId}
    (without : store.NoMacros macros) (expression : Expression) :
    ¬ expression.CallsMacro store macros := by
  rintro (⟨found, _⟩)
  exact without _ _ found

section

variable {machine : Machine} {macros : FrameId}

theorem reads_macroNamed? {callee : Expression} {arguments : List Expression}
    (plain : ¬ (Expression.call callee arguments).CallsMacro machine.store macros) :
    (Evaluator.macroNamed? macros callee).Reads machine none := by
  unfold Evaluator.macroNamed?
  split
  · refine (reads_lookup? machine macros _).bind ?_
    split
    · next closure found => exact absurd (.call found arguments) plain
    · exact reads_pure _
  · exact reads_pure _

/-- A node that calls no macro is left as it is. -/
theorem reads_expandNode (evaluator : Evaluator) {expression : Expression}
    (plain : ¬ expression.CallsMacro machine.store macros) :
    (evaluator.expandNode macros expression).Reads machine expression := by
  unfold Evaluator.expandNode
  split
  · exact (reads_macroNamed? plain).bind (reads_pure _)
  · exact reads_pure _

theorem handles_expander (evaluator : Evaluator) (without : machine.store.NoMacros macros) :
    (Relator.reading machine).Handles .all (evaluator.expander macros) .identity where
  statement _ walk := walk
  block _ walk := walk
  expression _ walk :=
    ⟨walk.1.bind (reads_expandNode evaluator (without.not_callsMacro _)), trivial⟩

/-- **Where no name is bound to a macro, expansion gives back the program** and does nothing else. -/
theorem reads_expandMacros (depth : Nat) (without : machine.store.NoMacros macros)
    (program : Program) : (expandMacros depth macros program).Reads machine program := by
  have builds : (expandMacros depth macros program).Reads machine
      (Traversal.identity.onStatements program) :=
    ((handles_expander (evaluate depth) without).onStatements trivial).1
  rwa [Traversal.identity_onStatements] at builds

end

end MonkeyLang
