import MonkeyLang.Expansion
import MonkeyLang.Proofs.Store.Extension

/-!
# Macro definitions

A statement on the top level of a program either defines a macro or stays in the
program (`defineMacros_cons`). What defining the macros of a program does to the
machine is told by the definitions alone (`machine_defineMacros`).
-/

set_option autoImplicit false

namespace MonkeyLang

/-- Whether a statement defines a macro when it stands on the top level. -/
def Statement.definesMacro : Statement → Bool
  | .bind _ (.macroLiteral _ _) => true
  | _ => false

/-- A statement that defines a macro is a binding of a macro literal. -/
theorem Statement.eq_of_definesMacro {statement : Statement}
    (defines : statement.definesMacro = true) :
    ∃ name parameters body, statement = .bind name (.macroLiteral parameters body) := by
  unfold Statement.definesMacro at defines
  split at defines
  · exact ⟨_, _, _, rfl⟩
  · cases defines

/-- The statements of a program that define macros. -/
def Program.definitions (program : Program) : Program :=
  program.filter Statement.definesMacro

section

variable {macros : FrameId}

/-- A statement that defines no macro stays in the program. -/
theorem defineMacros_cons {first : Statement} (other : first.definesMacro = false)
    (rest : Program) (machine : Machine) :
    defineMacros macros (first :: rest) machine =
      (first :: (defineMacros macros rest machine).1, (defineMacros macros rest machine).2) := by
  rw [defineMacros]
  rintro name parameters body rfl
  cases other

/-- A program without definitions stays as it is, and so does the machine. -/
theorem defineMacros_of_none :
    ∀ {program : Program}, (∀ statement ∈ program, statement.definesMacro = false) →
      ∀ machine : Machine, defineMacros macros program machine = (program, machine)
  | [], _, _ => rfl
  | first :: rest, plain, machine => by
    rw [List.forall_mem_cons] at plain
    rw [defineMacros_cons plain.1, defineMacros_of_none plain.2]

/-- A program that is nothing but definitions leaves no statement. -/
theorem program_defineMacros_of_all :
    ∀ {program : Program}, (∀ statement ∈ program, statement.definesMacro = true) →
      ∀ machine : Machine, (defineMacros macros program machine).1 = []
  | [], _, _ => rfl
  | first :: rest, all, machine => by
    rw [List.forall_mem_cons] at all
    obtain ⟨name, parameters, body, rfl⟩ := Statement.eq_of_definesMacro all.1
    rw [defineMacros]
    exact program_defineMacros_of_all all.2 _

/-- What becomes of the machine is told by the definitions alone. -/
theorem machine_defineMacros : ∀ (program : Program) (machine : Machine),
    (defineMacros macros program machine).2 =
      (defineMacros macros program.definitions machine).2
  | [], _ => rfl
  | first :: rest, machine => by
    cases defines : first.definesMacro with
    | false =>
        rw [defineMacros_cons defines, Program.definitions, List.filter_cons_of_neg
          (by rw [defines]; decide)]
        exact machine_defineMacros rest machine
    | true =>
        rw [Program.definitions, List.filter_cons_of_pos defines]
        obtain ⟨name, parameters, body, rfl⟩ := Statement.eq_of_definesMacro defines
        rw [defineMacros, defineMacros]
        exact machine_defineMacros rest _

end

end MonkeyLang
