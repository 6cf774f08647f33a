import MonkeyLang.Proofs.Evaluation.Depth

/-!
# How evaluations complete

Depth only decides whether an evaluation is given up, so what an evaluation comes to is
what it comes to within every depth from some depth on. A family of computations, one
for each depth, is a process, and `Process.Ends` says how it ends, on which machine.

A process breaks when it ends early, with a returned value or with an error. In a
sequence the first computation that breaks is the end of the whole: with the same
signal, on the machine that it left (`Process.Breaks.bind`).

Operands, elements, entries and statements are sequences, so what stands in a list can
be taken apart at every place in it (`Evaluator.list_append`, `Evaluator.entries_append`,
`Evaluator.statements_append`); and where one of them breaks, the first that does is
found (`Evaluator.of_list_eq`, `Evaluator.of_statements_eq`,
`Evaluator.of_entries_eq_returned`).
-/

set_option autoImplicit false

namespace MonkeyLang

/-! ## Signals -/

/-- What ends a computation early. -/
inductive Signal where
  | returned (value : Value)
  | failed (cause : RuntimeError)

/-- The ending with a signal. -/
def Signal.ending {α : Type} : Signal → Ending α
  | .returned value => .returned value
  | .failed cause => .failed cause

namespace Computation

variable {α β : Type} {first : Computation α} {machine after : Machine} {signal : Signal}

/-- The computation that is at its end, on the machine it starts from. -/
def endAs (ending : Ending α) : Computation α :=
  fun machine => some (ending, machine)

/-- A sequence goes on alike where its first computations end alike. -/
theorem bind_congr_left {first' : Computation α} {machine' : Machine}
    (same : first machine = first' machine') (next : α → Computation β) :
    (first >>= next) machine = (first' >>= next) machine' := by
  simp only [bind, andThen, same]

/-- A sequence whose first computation breaks is broken by it. -/
theorem bind_of_signal (ends : first machine = some (signal.ending, after))
    (next : α → Computation β) : (first >>= next) machine = some (signal.ending, after) := by
  cases signal with
  | returned value => exact bind_of_returned ends next
  | failed cause => exact bind_of_failed ends next

/-- A sequence that was broken was broken in its first computation or after it. -/
theorem of_bind_eq_signal {next : α → Computation β}
    (ends : (first >>= next) machine = some (signal.ending, after)) :
    first machine = some (signal.ending, after) ∨
      ∃ value middle, first machine = some (.value value, middle) ∧
        next value middle = some (signal.ending, after) := by
  rcases of_bind_eq ends with ⟨value, middle, run, rest⟩ | ⟨early, run⟩
  · exact .inr ⟨value, middle, run, rest⟩
  · cases early with
    | value value =>
        rw [bind_of_value run] at ends
        exact .inr ⟨value, after, run, ends⟩
    | returned value =>
        rw [bind_of_returned run] at ends
        cases signal <;> cases ends
        exact .inl run
    | failed cause =>
        rw [bind_of_failed run] at ends
        cases signal <;> cases ends
        exact .inl run

theorem of_bind_eq_returned {next : α → Computation β} {value : Value}
    (ends : (first >>= next) machine = some (.returned value, after)) :
    first machine = some (.returned value, after) ∨
      ∃ result middle, first machine = some (.value result, middle) ∧
        next result middle = some (.returned value, after) :=
  @of_bind_eq_signal _ _ _ _ _ (.returned value) _ ends

/-- What is made of a value does not count for a computation that was broken. -/
theorem map_eq_signal_iff {f : α → β} :
    (f <$> first) machine = some (signal.ending, after) ↔
      first machine = some (signal.ending, after) := by
  rw [← bind_pure_comp]
  constructor
  · intro ends
    rcases of_bind_eq_signal ends with run | ⟨value, middle, -, rest⟩
    · exact run
    · cases signal <;> cases rest
  · exact fun run => bind_of_signal run _

theorem map_of_value {f : α → β} {value : α} (ends : first machine = some (.value value, after)) :
    (f <$> first) machine = some (.value (f value), after) := by
  rw [← bind_pure_comp]
  exact bind_of_value ends _

theorem of_map_eq_value {f : α → β} {result : β}
    (ends : (f <$> first) machine = some (.value result, after)) :
    ∃ value, first machine = some (.value value, after) ∧ result = f value := by
  rw [← bind_pure_comp] at ends
  obtain ⟨value, middle, run, rest⟩ := of_bind_eq_value ends
  cases rest
  exact ⟨value, run, rfl⟩

end Computation

/-! ## Processes -/

/-- A computation for every depth to which evaluations may nest. -/
abbrev Process (α : Type) := Nat → Computation α

namespace Process

variable {α β : Type} {process : Process α} {machine middle after : Machine} {signal : Signal}

/-- How the process ends within every depth from some depth on, and the machine it leaves. -/
def Ends (process : Process α) (machine : Machine) (ending : Ending α) (after : Machine) : Prop :=
  ∃ depth, ∀ more, depth ≤ more → process more machine = some (ending, after)

/-- The process ends early with a signal. -/
def Breaks (process : Process α) (machine : Machine) (signal : Signal) (after : Machine) : Prop :=
  process.Ends machine signal.ending after

theorem ends_of_forall {ending : Ending α}
    (run : ∀ depth, process depth machine = some (ending, after)) :
    process.Ends machine ending after :=
  ⟨0, fun more _ => run more⟩

/-- What ends within some depth, and alike within greater ones, ends so. -/
theorem ends_of_below {depth : Nat} {ending : Ending α}
    (below : ∀ {more : Nat}, depth ≤ more → (process depth).Below (process more))
    (run : process depth machine = some (ending, after)) : process.Ends machine ending after :=
  ⟨depth, fun _ le => below le machine _ run⟩

theorem Ends.congr {process' : Process α} {ending : Ending α} {machine' : Machine}
    (same : ∀ depth, process' depth machine' = process depth machine)
    (ends : process.Ends machine ending after) : process'.Ends machine' ending after := by
  obtain ⟨depth, run⟩ := ends
  exact ⟨depth, fun more le => (same more).trans (run more le)⟩

/-- One more depth around a process that ends. -/
theorem Ends.step {process' : Process α} {ending : Ending α} {machine' : Machine}
    (same : ∀ depth, process' (depth + 1) machine' = process depth machine)
    (ends : process.Ends machine ending after) : process'.Ends machine' ending after := by
  obtain ⟨depth, run⟩ := ends
  refine ⟨depth + 1, fun more le => ?_⟩
  obtain ⟨less, rfl⟩ : ∃ less, more = less + 1 := ⟨more - 1, by omega⟩
  exact (same less).trans (run less (Nat.le_of_succ_le_succ le))

/-- After a value the sequence goes on with what follows. -/
theorem Ends.bind {value : α} {ending : Ending β}
    (first : process.Ends machine (.value value) middle) (next : α → Process β)
    (rest : (next value).Ends middle ending after) :
    Process.Ends (fun depth => process depth >>= fun value => next value depth) machine ending
      after := by
  obtain ⟨depth, run⟩ := first
  obtain ⟨depth', run'⟩ := rest
  refine ⟨max depth depth', fun more le => ?_⟩
  have le := Nat.max_le.mp le
  exact (Computation.bind_of_value (run more le.1) _).trans (run' more le.2)

/-- **What breaks is the end of the whole sequence.** -/
theorem Breaks.bind {next : Nat → α → Computation β} (first : process.Breaks machine signal after) :
    Process.Breaks (fun depth => process depth >>= next depth) machine signal after := by
  obtain ⟨depth, run⟩ := first
  exact ⟨depth, fun more le => Computation.bind_of_signal (run more le) _⟩

theorem breaks_map_iff {f : α → β} :
    Process.Breaks (fun depth => f <$> process depth) machine signal after ↔
      process.Breaks machine signal after := by
  constructor <;> rintro ⟨depth, run⟩ <;> refine ⟨depth, fun more le => ?_⟩
  · exact Computation.map_eq_signal_iff.mp (run more le)
  · exact Computation.map_eq_signal_iff.mpr (run more le)

theorem Ends.map {f : α → β} {value : α} (ends : process.Ends machine (.value value) after) :
    Process.Ends (fun depth => f <$> process depth) machine (.value (f value)) after := by
  obtain ⟨depth, run⟩ := ends
  exact ⟨depth, fun more le => Computation.map_of_value (run more le)⟩

theorem ends_map_iff {f : α → β} (injective : Function.Injective f) {value : α} :
    Process.Ends (fun depth => f <$> process depth) machine (.value (f value)) after ↔
      process.Ends machine (.value value) after := by
  constructor
  · rintro ⟨depth, run⟩
    refine ⟨depth, fun more le => ?_⟩
    obtain ⟨inner, ends, same⟩ := Computation.of_map_eq_value (run more le)
    rwa [injective same]
  · exact Ends.map

/-- At the edge of a body a value that was returned is its value, as if it had come to its end with
it. -/
theorem ends_settle {body : Process Value} {value : Value}
    (ends : body.Ends machine (.value value) after ∨ body.Breaks machine (.returned value) after) :
    Process.Ends (fun depth => (body depth).settle) machine (.value value) after := by
  rcases ends with ⟨depth, run⟩ | ⟨depth, run⟩ <;> refine ⟨depth, fun more le => ?_⟩
  · simp only [Computation.settle, run more le]
  · simp only [Computation.settle, run more le, Signal.ending]

/-- An error goes over the edge of a body. -/
theorem breaks_settle {body : Process Value} {cause : RuntimeError}
    (breaks : body.Breaks machine (.failed cause) after) :
    Process.Breaks (fun depth => (body depth).settle) machine (.failed cause) after := by
  obtain ⟨depth, run⟩ := breaks
  refine ⟨depth, fun more le => ?_⟩
  simp only [Computation.settle, run more le, Signal.ending]

end Process

/-! ## Evaluations as processes -/

section Evaluations

variable {depth : Nat} {frame : FrameId} {machine after : Machine}

theorem ends_expression {expression : Expression} {ending : Ending Value}
    (run : evaluate depth frame expression machine = some (ending, after)) :
    Process.Ends (fun depth => evaluate depth frame expression) machine ending after :=
  Process.ends_of_below (fun le => evaluate_below le frame expression) run

theorem ends_list {expressions : List Expression} {ending : Ending (List Value)}
    (run : (evaluate depth).list frame expressions machine = some (ending, after)) :
    Process.Ends (fun depth => (evaluate depth).list frame expressions) machine ending after :=
  Process.ends_of_below (fun le => (evaluate_below le).list expressions) run

theorem ends_entries {table : HashTable} {pairs : List (Expression × Expression)}
    {ending : Ending HashTable}
    (run : (evaluate depth).entries frame table pairs machine = some (ending, after)) :
    Process.Ends (fun depth => (evaluate depth).entries frame table pairs) machine ending after :=
  Process.ends_of_below (fun le => (evaluate_below le).entries pairs table) run

theorem ends_block {body : Block} {ending : Ending Value}
    (run : (evaluate depth).block frame body machine = some (ending, after)) :
    Process.Ends (fun depth => (evaluate depth).block frame body) machine ending after :=
  Process.ends_of_below (fun le => (evaluate_below le).block body) run

end Evaluations

/-! ## Lists of parts -/

namespace Evaluator

variable {evaluator : Evaluator} {frame : FrameId} {machine after : Machine} {signal : Signal}

/-- The values of expressions one after the other. -/
theorem list_append (before later : List Expression) :
    evaluator.list frame (before ++ later) =
      evaluator.list frame before >>= fun values =>
        (values ++ ·) <$> evaluator.list frame later := by
  induction before with
  | nil => simp [Evaluator.list]
  | cons first rest ih => simp [Evaluator.list, ih]

/-- The entries of pairs one after the other. -/
theorem entries_append (table : HashTable) (before later : List (Expression × Expression)) :
    evaluator.entries frame table (before ++ later) =
      evaluator.entries frame table before >>= fun table =>
        evaluator.entries frame table later := by
  induction before generalizing table with
  | nil => simp [Evaluator.entries]
  | cons first rest ih =>
      obtain ⟨key, value⟩ := first
      simp [Evaluator.entries, ih]

/-- Statements that follow others begin where these ended. -/
theorem statements_append :
    ∀ (first rest : List Statement) (before : Value),
      evaluator.statements frame before (first ++ rest) =
        evaluator.statements frame before first >>= fun value =>
          evaluator.statements frame value rest
  | [], rest, before => by
    rw [Evaluator.statements]
    exact (pure_bind before fun value => evaluator.statements frame value rest).symm
  | statement :: first, rest, before => by
    rw [List.cons_append, Evaluator.statements, Evaluator.statements, bind_assoc]
    refine congrArg (evaluator.statement frame statement >>= ·) ?_
    funext value
    exact statements_append first rest value

/-- In a list that was broken, one expression is the first that breaks. -/
theorem of_list_eq {expressions : List Expression}
    (ends : evaluator.list frame expressions machine = some (signal.ending, after)) :
    ∃ before part later values middle, expressions = before ++ part :: later ∧
      evaluator.list frame before machine = some (.value values, middle) ∧
        evaluator frame part middle = some (signal.ending, after) := by
  induction expressions generalizing machine with
  | nil => cases signal <;> cases ends
  | cons first rest ih =>
      rcases Computation.of_bind_eq_signal ends with broken | ⟨value, start, run, broken⟩
      · exact ⟨[], first, rest, [], machine, rfl, rfl, broken⟩
      · rw [bind_pure_comp, Computation.map_eq_signal_iff] at broken
        obtain ⟨before, part, later, values, middle, rfl, completed, breaks⟩ := ih broken
        refine ⟨first :: before, part, later, value :: values, middle, rfl, ?_, breaks⟩
        rw [Evaluator.list, Computation.bind_of_value run, Computation.bind_of_value completed]
        rfl

/-- Among statements that were broken, one is the first that breaks. -/
theorem of_statements_eq {start : Value} {body : List Statement}
    (ends : evaluator.statements frame start body machine = some (signal.ending, after)) :
    ∃ before first later value middle, body = before ++ first :: later ∧
      evaluator.statements frame start before machine = some (.value value, middle) ∧
        evaluator.statement frame first middle = some (signal.ending, after) := by
  induction body generalizing start machine with
  | nil => cases signal <;> cases ends
  | cons head rest ih =>
      rcases Computation.of_bind_eq_signal ends with broken | ⟨value, between, run, broken⟩
      · exact ⟨[], head, rest, start, machine, rfl, rfl, broken⟩
      · obtain ⟨before, first, later, value, middle, rfl, completed, breaks⟩ := ih broken
        refine ⟨head :: before, first, later, value, middle, rfl, ?_, breaks⟩
        rw [Evaluator.statements, Computation.bind_of_value run]
        exact completed

/-- Among pairs that were left by a return, one is the first whose key or value returns. A key that
is not fit for one fails and returns nothing. -/
theorem of_entries_eq_returned {table : HashTable} {pairs : List (Expression × Expression)}
    {result : Value}
    (ends : evaluator.entries frame table pairs machine = some (.returned result, after)) :
    ∃ before key value later table' middle, pairs = before ++ (key, value) :: later ∧
      evaluator.entries frame table before machine = some (.value table', middle) ∧
        (evaluator frame key middle = some (.returned result, after) ∨
          ∃ source hashed between, evaluator frame key middle = some (.value source, between) ∧
            source.hashKey = .ok hashed ∧
              evaluator frame value between = some (.returned result, after)) := by
  induction pairs generalizing table machine with
  | nil => cases ends
  | cons pair rest ih =>
      obtain ⟨key, value⟩ := pair
      rcases Computation.of_bind_eq_returned ends with broken | ⟨source, between, run, onward⟩
      · exact ⟨[], key, value, rest, table, machine, rfl, rfl, .inl broken⟩
      cases hashes : source.hashKey with
      | error cause =>
          rw [hashes] at onward
          cases onward
      | ok hashed =>
          rw [hashes] at onward
          have onward : (evaluator frame value >>= fun stored => evaluator.entries frame
              (table.set hashed (source, stored)) rest) between = some (.returned result, after) :=
            onward
          rcases Computation.of_bind_eq_returned onward with broken | ⟨stored, next, run', broken⟩
          · exact ⟨[], key, value, rest, table, machine, rfl, rfl,
              .inr ⟨source, hashed, between, run, hashes, broken⟩⟩
          · obtain ⟨before, key', value', later, table', middle, rfl, completed, breaks⟩ :=
              ih broken
            refine ⟨(key, value) :: before, key', value', later, table', middle, rfl, ?_, breaks⟩
            rw [Evaluator.entries, Computation.bind_of_value run, hashes]
            exact (Computation.bind_of_value run' _).trans completed

end Evaluator

end MonkeyLang
