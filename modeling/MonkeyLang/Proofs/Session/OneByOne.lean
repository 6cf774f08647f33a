import MonkeyLang.Proofs.Evaluation.Completion
import MonkeyLang.Proofs.Session.Frames

/-!
# One text or many

A program comes to the same whether a session reads it as one text or statement by
statement (`read_one_by_one`). The texts read back as the statements they were
rendered from, there is no macro to expand, so reading is running; and statements
that follow others begin where these ended. Only what the last statement is decides
whether there is something to show.
-/

set_option autoImplicit false

namespace MonkeyLang

/-! ## Statements after statements -/

section

variable {evaluator : Evaluator} {frame : FrameId}

theorem Evaluator.block_singleton (statement : Statement) :
    evaluator.block frame [statement] = evaluator.statement frame statement := by
  rw [Evaluator.block, Evaluator.statements]
  exact bind_pure _

end

/-- What a program shows depends on its last statement only. -/
theorem answer_concat (first : Program) (last : Statement) (ending : Ending Value) :
    answer (first ++ [last]) ending = answer [last] ending := by
  have silent : endsSilently (first ++ [last]) = endsSilently [last] := by
    rw [endsSilently, endsSilently, List.getLast?_concat, List.getLast?_singleton]
  cases ending with
  | value value => rw [answer, answer, silent]
  | returned | failed => rfl

/-! ## Sessions without macros -/

namespace Session

/-- No macro was defined in the session. -/
structure Bare (session : Session) : Prop where
  apart : session.Apart
  frame : session.machine.store.frame? session.macros = some ⟨[], none⟩

theorem bare_initial : initial.Bare :=
  ⟨apart_initial, rfl⟩

variable {depth depth' : Nat} {session after : Session} {outcome : Outcome} {program : Program}
  {machine : Machine} {value : Value}

theorem Bare.noMacros (bare : session.Bare) :
    session.machine.store.NoMacros session.macros := by
  intro name closure
  rw [Store.lookup?_of_outermost bare.frame rfl rfl]
  rintro ⟨⟩

/-- Reading the text of a program that defines no macro is running the program. -/
theorem Bare.read_render (bare : session.Bare) (renderable : program.Renderable)
    (plain : ∀ statement ∈ program, statement.definesMacro = false) :
    session.read depth program.render = session.run depth program := by
  have expands : expandMacros depth session.macros program session.machine =
      some (.value program, session.machine) := reads_expandMacros depth bare.noMacros program
  rw [Session.read_render depth session renderable, execute, defineMacros_of_none plain]
  dsimp only
  rw [expands]

theorem Bare.run (bare : session.Bare)
    (runs : session.run depth program = some (outcome, after)) : after.Bare := by
  have kept := bare.apart.run runs
  refine ⟨kept.apart bare.apart bare.apart.present, ?_⟩
  rw [kept.macros, kept.frame]
  exact bare.frame

/-! ## Statement by statement -/

/-- What was run within some depth is run alike within a greater one. -/
theorem run_of_le (le : depth ≤ depth')
    (runs : session.run depth program = some (outcome, after)) :
    session.run depth' program = some (outcome, after) := by
  obtain ⟨ending, machine, evaluates, rfl, rfl⟩ := of_run_eq runs
  exact run_of_block ((evaluate_below le).block program session.machine _ evaluates)

/-- Running statements and one more after they ended is running the one where they ended. -/
theorem run_concat {first : List Statement} {last : Statement}
    (completes : (evaluate depth).block session.names first session.machine =
      some (.value value, machine)) :
    session.run depth (first ++ [last]) = run depth { session with machine } [last] := by
  have evaluates : (evaluate depth).block session.names (first ++ [last]) session.machine =
      (evaluate depth).block session.names [last] machine := by
    rw [Evaluator.block, Evaluator.statements_append]
    exact Computation.bind_of_value completes _
  rw [run, run, runProgram, runProgram, evaluates]
  simp only [answer_concat]

section

variable {first : List Statement} {statement : Statement}

/-- Reading the text of a statement is running the statement. -/
theorem Bare.read_statement (bare : session.Bare) (renderable : statement.Renderable)
    (plain : statement.definesMacro = false) :
    session.read depth statement.render = session.run depth [statement] := by
  have text : Program.render [statement] = statement.render := rfl
  have program : Program.Renderable [statement] := ⟨renderable, trivial⟩
  rw [← text]
  exact bare.read_render program (by simpa using plain)

/-- The session that has read the text of a statement is the one in which it was evaluated. -/
theorem Bare.read_statement_iff (bare : session.Bare) (renderable : statement.Renderable)
    (plain : statement.definesMacro = false)
    (evaluates : (evaluate depth).statement session.names statement session.machine =
      some (.value value, machine)) :
    (∃ depth outcome, session.read depth statement.render = some (outcome, after)) ↔
      after = { session with machine } := by
  rw [← Evaluator.block_singleton] at evaluates
  constructor
  · rintro ⟨depth', outcome, reads⟩
    rw [bare.read_statement renderable plain] at reads
    obtain ⟨ending, machine', evaluates', -, rfl⟩ := of_run_eq reads
    cases Evaluator.block_unique evaluates evaluates'
    rfl
  · rintro rfl
    exact ⟨depth, _, (bare.read_statement renderable plain).trans (run_of_block evaluates)⟩

/-- The session that has read the texts of statements one by one is the one in which they were
evaluated one after the other. -/
theorem Bare.reads_iff (bare : session.Bare) (renderable : ∀ statement ∈ first, statement.Renderable)
    (plain : ∀ statement ∈ first, statement.definesMacro = false) {before : Value}
    (evaluates : (evaluate depth).statements session.names before first session.machine =
      some (.value value, machine)) :
    session.Reads (first.map Statement.render) after ↔ after = { session with machine } := by
  induction first generalizing session before with
  | nil =>
      cases evaluates
      exact reads_nil_iff
  | cons statement rest ih =>
      rw [List.forall_mem_cons] at renderable plain
      obtain ⟨between, start, evaluates, others⟩ := Computation.of_bind_eq_value evaluates
      have one := fun after =>
        @Bare.read_statement_iff depth session after _ _ statement bare renderable.1 plain.1
          evaluates
      rw [← Evaluator.block_singleton] at evaluates
      have started : Bare { session with machine := start } := bare.run (run_of_block evaluates)
      rw [List.map_cons, reads_cons_iff]
      constructor
      · rintro ⟨middle, reads, rest⟩
        rw [one] at reads
        subst reads
        exact (ih started renderable.2 plain.2 others).mp rest
      · intro same
        exact ⟨_, (one _).mpr rfl, (ih started renderable.2 plain.2 others).mpr same⟩

end

end Session

/-- **One text or many.** If all statements of a renderable program but the last one, none of which
defines a macro, end with values when they are evaluated one after the other, then a new session
can read their texts one by one, and comes to one session by this. That session reads the text of
the last statement with the outcome, and the session after it, that a new session reads the text of
the whole program with, or neither of them ends. -/
theorem read_one_by_one {first : List Statement} {last : Statement}
    (renderable : Program.Renderable (first ++ [last]))
    (plain : ∀ statement ∈ first ++ [last], statement.definesMacro = false)
    (completes : ∃ depth value machine,
      (evaluate depth).block Session.initial.names first Session.initial.machine =
        some (.value value, machine)) :
    ∃ middle : Session,
      (∀ session, Session.initial.Reads (first.map Statement.render) session ↔ session = middle) ∧
      ∀ outcome after,
        (∃ depth, Session.initial.read depth (Program.render (first ++ [last])) =
          some (outcome, after)) ↔
        ∃ depth, middle.read depth last.render = some (outcome, after) := by
  obtain ⟨depth, value, machine, evaluates⟩ := completes
  have each := statementsRenderable_iff.mp renderable
  have whole : ∀ depth, Session.initial.read depth (Program.render (first ++ [last])) =
      Session.initial.run depth (first ++ [last]) :=
    fun _ => Session.bare_initial.read_render renderable plain
  rw [List.forall_mem_append, List.forall_mem_singleton] at each plain
  have bare : Session.Bare { Session.initial with machine } :=
    Session.bare_initial.run (Session.run_of_block evaluates)
  have single : ∀ depth, Session.read depth { Session.initial with machine } last.render =
      Session.run depth { Session.initial with machine } [last] :=
    fun _ => bare.read_statement each.2 plain.2
  refine ⟨{ Session.initial with machine }, ?_, ?_⟩
  · exact fun session => Session.bare_initial.reads_iff each.1 plain.1 evaluates
  · intro outcome after
    simp only [whole, single]
    -- The evaluations end within different depths; within the greater one they all end.
    constructor
    · rintro ⟨depth', runs⟩
      have most := (evaluate_below (Nat.le_max_left depth depth')).block first _ _ evaluates
      refine ⟨max depth depth', ?_⟩
      rw [← Session.run_concat most]
      exact Session.run_of_le (Nat.le_max_right depth depth') runs
    · rintro ⟨depth', runs⟩
      have most := (evaluate_below (Nat.le_max_left depth depth')).block first _ _ evaluates
      refine ⟨max depth depth', ?_⟩
      rw [Session.run_concat most]
      exact Session.run_of_le (Nat.le_max_right depth depth') runs

/-- `let one = 1; puts(one)`. -/
def printedOne : List Statement :=
  [.bind "one" (.integer 1), .evaluate (.call (.identifier "puts") [.identifier "one"])]

/-- `let one = 1; puts(one); (one + 1)` prints 1 and has the value 2, as one text and as three. -/
theorem read_one_by_one_printing :
    ∃ middle after : Session,
      Session.initial.Reads ["let one = 1;", "puts(one)"] middle ∧
      (∃ depth, middle.read depth "(one + 1)" = some (.value (.integer 2), after)) ∧
      (∃ depth, Session.initial.read depth "let one = 1; puts(one); (one + 1)" =
        some (.value (.integer 2), after)) ∧
      after.machine.printed = "1\n" := by
  have one : IsName "one" := by decide
  have puts : IsName "puts" := by decide
  have renderable : Program.Renderable
      (printedOne ++ [.evaluate (.binary .add (.identifier "one") (.integer 1))]) :=
    ⟨⟨one, trivial⟩, ⟨puts, one, trivial⟩, ⟨one, trivial⟩, trivial⟩
  have ended : ((evaluate 3).block Session.initial.names printedOne Session.initial.machine).map
      Prod.fst = some (.value .null) := by with_unfolding_all rfl
  have shown : (Session.initial.execute 3
      (printedOne ++ [.evaluate (.binary .add (.identifier "one") (.integer 1))])).map
        (fun reached => (reached.1, reached.2.machine.printed)) =
          some (.value (.integer 2), "1\n") := by with_unfolding_all rfl
  obtain ⟨⟨_, machine⟩, evaluates, rfl⟩ := Option.map_eq_some_iff.mp ended
  obtain ⟨⟨outcome, after⟩, reads, same⟩ := Option.map_eq_some_iff.mp shown
  obtain ⟨rfl, printed⟩ := Prod.mk.inj same
  obtain ⟨middle, unique, agree⟩ :=
    read_one_by_one renderable (by decide) ⟨3, .null, machine, evaluates⟩
  have texts : printedOne.map Statement.render = ["let one = 1;", "puts(one)"] := by
    with_unfolding_all rfl
  have text : (Statement.evaluate (.binary .add (.identifier "one") (.integer 1))).render =
      "(one + 1)" := by with_unfolding_all rfl
  have whole : Program.render
      (printedOne ++ [.evaluate (.binary .add (.identifier "one") (.integer 1))]) =
        "let one = 1; puts(one); (one + 1)" := by with_unfolding_all rfl
  rw [texts] at unique
  rw [text, whole] at agree
  rw [← Session.read_render _ _ renderable, whole] at reads
  exact ⟨middle, after, (unique middle).mpr rfl, (agree _ after).mp ⟨3, reads⟩, ⟨3, reads⟩, printed⟩

end MonkeyLang
