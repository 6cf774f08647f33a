import MonkeyLang.Expansion
import MonkeyLang.Proofs.Evaluation.CorrespondingEvaluation
import MonkeyLang.Proofs.Expansion.Definitions

/-!
# Macros do not tell corresponding machines apart

Defining the macros of a program takes corresponding machines to corresponding
machines, and expanding a program runs alike on them: both expansions end with
the same program or with the same error, and both print the same text
(`runs_expandMacros`). The bodies of macros run like those of functions, so
nothing new is needed but the traversal that expands calls.
-/

set_option autoImplicit false

namespace MonkeyLang

open Correspondence

variable {corr : Correspondence} {frame frame' : FrameId}

/-! ## Definitions -/

namespace Correspondence

/-- One macro defined on both sides. -/
theorem Machines.defineMacro {machine machine' : Machine}
    (machines : corr.Machines machine machine') (frames : corr.Frames frame frame') (name : String)
    {parameters : List String} {body : Block}
    (names : ∀ parameter ∈ parameters, corr.trees.name parameter)
    (statements : corr.trees.statements body) :
    corr.Machines (machine.defineMacro frame name parameters body)
      (machine'.defineMacro frame' name parameters body) := by
  have closures : corr.Closures ⟨parameters, body, frame, machine.stamp⟩
      ⟨parameters, body, frame', machine'.stamp⟩ := ⟨rfl, rfl, names, statements, frames⟩
  have bound := machines.bind frames name (.macroValue closures)
  exact ⟨bound.opened, bound.contents, bound.printed⟩

/-- The macros of a program defined on both sides; what is left of the program is the same. -/
theorem Machines.defineMacros (frames : corr.Frames frame frame') :
    ∀ {program : Program}, corr.trees.statements program →
      ∀ {machine machine' : Machine}, corr.Machines machine machine' →
        Same corr.trees.statements (MonkeyLang.defineMacros frame program machine).1
          (MonkeyLang.defineMacros frame' program machine').1 ∧
        corr.Machines (MonkeyLang.defineMacros frame program machine).2
          (MonkeyLang.defineMacros frame' program machine').2
  | [], inside, _, _, machines => ⟨⟨rfl, inside⟩, machines⟩
  | first :: rest, inside, machine, machine', machines => by
    have parts := (corr.trees.statements_cons first rest).mp inside
    cases defines : first.definesMacro with
    | true =>
        obtain ⟨name, parameters, body, rfl⟩ := Statement.eq_of_definesMacro defines
        have literal := ((corr.trees.bind_iff _ _).mp parts.1).2
        have code := (corr.trees.macroLiteral_iff parameters body).mp literal
        exact Machines.defineMacros frames parts.2
          (machines.defineMacro frames name code.1 code.2)
    | false =>
        rw [defineMacros_cons defines, defineMacros_cons defines]
        obtain ⟨⟨same, others⟩, machines⟩ := Machines.defineMacros frames parts.2 machines
        exact ⟨⟨congrArg (first :: ·) same, (corr.trees.statements_cons _ _).mpr ⟨parts.1, others⟩⟩,
          machines⟩

end Correspondence

/-! ## Expansion -/

namespace Evaluator

variable {evaluator : Evaluator}

theorem lists_quotes : ∀ {arguments : List Expression}, corr.trees.expressions arguments →
    corr.Lists (arguments.map .quote) (arguments.map .quote)
  | [], _ => .nil
  | first :: rest, inside => by
    have parts := (corr.trees.expressions_cons first rest).mp inside
    exact .cons (.quote parts.1) (lists_quotes parts.2)

/-- Macros that correspond give the same syntax for the same arguments. -/
theorem Respects.expandCall (respects : evaluator.Respects corr) {closure closure' : Closure}
    (closures : corr.Closures closure closure') {arguments : List Expression}
    (inside : corr.trees.expressions arguments) :
    corr.Runs (Same corr.trees.expression) (evaluator.expandCall closure arguments)
      (evaluator.expandCall closure' arguments) := by
  rw [Evaluator.expandCall, Evaluator.expandCall, closures.parameters, closures.body]
  split
  · refine (runs_openFrame closures.frames).bind fun frames => ?_
    refine (runs_bindNames frames _ (lists_quotes inside)).bind fun _ => ?_
    refine (respects.block frames closures.statements).settle.bind fun values => ?_
    cases values with
    | quote inside => exact runs_same inside
    | _ => exact runs_fail _
  · exact runs_fail _

theorem runs_macroNamed? (frames : corr.Frames frame frame') {callee : Expression}
    (inside : corr.trees.expression callee) :
    corr.Runs (Option.Rel corr.Closures) (macroNamed? frame callee)
      (macroNamed? frame' callee) := by
  cases callee with
  | identifier name =>
      have visible := corr.visible_of_name ((corr.trees.identifier_iff name).mp inside)
      refine (runs_lookup? frames visible).bind fun found => ?_
      cases found with
      | none => exact runs_pure .none
      | some values =>
          cases values with
          | macroValue closures => exact runs_pure (.some closures)
          | _ => exact runs_pure .none
  | _ => exact runs_pure .none

theorem Respects.expandNode (respects : evaluator.Respects corr)
    (frames : corr.Frames frame frame') {expression : Expression}
    (inside : corr.trees.expression expression) :
    corr.Runs (Same corr.trees.expression) (evaluator.expandNode frame expression)
      (evaluator.expandNode frame' expression) := by
  cases expression with
  | call callee arguments =>
      have parts := (corr.trees.call_iff callee arguments).mp inside
      refine (runs_macroNamed? frames parts.1).bind fun found => ?_
      cases found with
      | none => exact runs_same inside
      | some closures => exact respects.expandCall closures parts.2
  | _ => exact runs_same inside

theorem Respects.expander (respects : evaluator.Respects corr)
    (frames : corr.Frames frame frame') :
    corr.building.Handles corr.trees (evaluator.expander frame) (evaluator.expander frame') where
  statement _ walks := walks
  block _ walks := walks
  expression _ walks := walks.bind_same fun inside => respects.expandNode frames inside

end Evaluator

/-- **Expansion respects every correspondence.** -/
theorem runs_expandMacros (depth : Nat) (frames : corr.Frames frame frame') {program : Program}
    (inside : corr.trees.statements program) :
    corr.Runs (Same corr.trees.statements) (expandMacros depth frame program)
      (expandMacros depth frame' program) :=
  ((respects_evaluate corr depth).expander frames).onStatements inside

end MonkeyLang
