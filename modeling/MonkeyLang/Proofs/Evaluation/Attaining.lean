import Mathlib.Data.List.Forall2
import MonkeyLang.Proofs.Evaluation.Points
import MonkeyLang.Proofs.Store.History

/-!
# What evaluations attain

An evaluation attains a property from a machine when it ends with a value that has the
property, prints nothing and changes no frame, and does so from every machine that was
reached by such evaluations too (`Process.Attains`). How deep it nests is not said: it
ends within every depth from some depth on.

Here is one rule for each form of expression. What a frame sees of names is a scope. A
scope is kept by everything that changes no frame (`Machine.Sees.of_precedes`), and a
call puts the parameters inside the scope of the frame that the function was made in
(`Machine.Sees.enter`). The frame of a call is new, so what the body does to it is a
change to no frame that was there: the rule for calls asks of the body only that it
leaves the frames before the call alone (`Evaluator.attains_apply_closure`).
-/

set_option autoImplicit false

namespace MonkeyLang

/-! ## Scopes -/

/-- What each name stands for, if it is bound. -/
abbrev Scope := String → Option Value

/-- The function that the name of a builtin calls. -/
theorem Builtin.ofName?_name (builtin : Builtin) : ofName? builtin.name = some builtin := by
  cases builtin <;> rfl

namespace Scope

/-- A scope with one name bound inside it. -/
def bind (scope : Scope) (name : String) (value : Value) : Scope :=
  fun other => if other = name then some value else scope other

/-- A scope with names bound inside it, in order, as far as there are both names and values. -/
def bindNames (scope : Scope) : List String → List Value → Scope
  | name :: names, value :: values => (scope.bind name value).bindNames names values
  | _, _ => scope

variable {scope : Scope} {name : String} {value : Value}

@[simp]
theorem bind_self : scope.bind name value name = some value :=
  if_pos rfl

theorem bind_of_ne {other : String} (distinct : other ≠ name) :
    scope.bind name value other = scope other :=
  if_neg distinct

/-- Other names stand for what they stood for. -/
theorem bindNames_of_notMem {other : String} {names : List String} (absent : other ∉ names)
    (values : List Value) : scope.bindNames names values other = scope other := by
  induction names generalizing scope values with
  | nil => rfl
  | cons name names ih =>
      rw [List.mem_cons, not_or] at absent
      cases values with
      | nil => rfl
      | cons value values => exact (ih absent.2 values).trans (bind_of_ne absent.1)

/-- No builtin is hidden. -/
def LeavesBuiltins (scope : Scope) : Prop :=
  ∀ builtin : Builtin, scope builtin.name = none

/-- Names that are no builtin's hide none. -/
theorem LeavesBuiltins.bind (leaves : scope.LeavesBuiltins) (name : String) (value : Value)
    (other : Builtin.ofName? name = none) : (scope.bind name value).LeavesBuiltins := by
  intro builtin
  refine (bind_of_ne ?_).trans (leaves builtin)
  rintro rfl
  rw [Builtin.ofName?_name] at other
  cases other

theorem LeavesBuiltins.bindNames (leaves : scope.LeavesBuiltins) (names : List String)
    (values : List Value) (others : ∀ name ∈ names, Builtin.ofName? name = none) :
    (scope.bindNames names values).LeavesBuiltins := by
  induction names generalizing scope values with
  | nil => exact leaves
  | cons name names ih =>
      rw [List.forall_mem_cons] at others
      cases values with
      | nil => exact leaves
      | cons value values => exact ih (leaves.bind name value others.1) values others.2

end Scope

namespace Store

variable {store : Store} {id : FrameId}

/-- A binding is not seen from the frames that are older than the frame it is made in. -/
theorem lookup?_bind_of_lt (inside : id < store.size) (name : String) (value : Value)
    (wanted : String) : ∀ {other : FrameId}, other < id →
      (store.bind id name value).lookup? other wanted = store.lookup? other wanted := by
  intro other
  -- On the number of the frame: the frame around it has a smaller one.
  induction other using Nat.strongRecOn with
  | ind other ih =>
      intro older
      have elsewhere : ¬ (other = id ∧ wanted = name) := fun both => Nat.ne_of_lt older both.1
      rw [lookup?_eq, lookup?_eq store, bound?_bind store inside, if_neg elsewhere, outer?_bind]
      cases around : store.outer? other with
      | none => rfl
      | some parent =>
          have smaller := outer?_lt around
          rw [Option.bind_some, Option.bind_some, ih parent smaller (Nat.lt_trans smaller older)]

/-- The frame with the binding sees it, and everything else as before. -/
theorem lookup?_bind_self (inside : id < store.size) (name : String) (value : Value) :
    (store.bind id name value).lookup? id = Scope.bind (store.lookup? id) name value := by
  funext wanted
  rw [lookup?_eq, bound?_bind store inside, outer?_bind, Scope.bind]
  by_cases same : wanted = name
  · rw [if_pos ⟨rfl, same⟩, if_pos same, Option.some_or]
  · rw [if_neg fun both => same both.2, if_neg same, lookup?_eq store]
    cases around : store.outer? id with
    | none => rfl
    | some parent =>
        rw [Option.bind_some, Option.bind_some, lookup?_bind_of_lt inside _ _ _ (outer?_lt around)]

/-- A frame that was opened sees what its parent sees. -/
theorem lookup?_openFrame_self (inside : id < store.size) :
    (store.openFrame (some id)).lookup? store.size = store.lookup? id := by
  funext wanted
  have opened : (store.openFrame (some id)).outer? store.size = some id := by
    rw [outer?_openFrame, if_pos rfl]
    exact Option.filter_eq_some_iff.mpr ⟨rfl, decide_eq_true inside⟩
  have unbound : (store.openFrame (some id)).bound? store.size wanted = none := by
    rw [bound?_openFrame, bound?, frame?_eq_none (Nat.le_refl _), Option.bind_none]
  rw [lookup?_eq, unbound, opened, Option.none_or, Option.bind_some]
  exact (Extends.openFrame store (some id)).lookup?_eq wanted inside

end Store

/-! ## Machines after others -/

namespace Machine

/-- The machine with a name bound in a frame. -/
def bind (machine : Machine) (frame : FrameId) (name : String) (value : Value) : Machine :=
  { machine with store := machine.store.bind frame name value }

/-- Every frame is still there, unchanged, and nothing was printed. Closures may have been made. -/
structure Precedes (before after : Machine) : Prop where
  store : before.store.Extends after.store
  printed : after.printed = before.printed

namespace Precedes

theorem refl (machine : Machine) : machine.Precedes machine :=
  ⟨.refl _, rfl⟩

theorem trans {before middle after : Machine} (first : before.Precedes middle)
    (second : middle.Precedes after) : before.Precedes after :=
  ⟨first.store.trans second.store, second.printed.trans first.printed⟩

/-- A binding in a frame that is new changes no frame that was there. -/
theorem bind {before after : Machine} (precedes : before.Precedes after) {frame : FrameId}
    (new : before.store.size ≤ frame) (name : String) (value : Value) :
    before.Precedes (after.bind frame name value) :=
  ⟨precedes.store.bind new name value, precedes.printed⟩

theorem bindNames {before after : Machine} (precedes : before.Precedes after) {frame : FrameId}
    (new : before.store.size ≤ frame) (names : List String) (values : List Value) :
    before.Precedes (after.bindNames frame names values) := by
  induction names generalizing values after with
  | nil => exact precedes
  | cons name names ih =>
      cases values with
      | nil => exact precedes
      | cons value values => exact ih (precedes.bind new name value) values

theorem enter (machine : Machine) (closure : Closure) (arguments : List Value) :
    machine.Precedes (machine.enter closure arguments) :=
  have opened : machine.Precedes
      { machine with store := machine.store.openFrame (some closure.frame) } :=
    ⟨.openFrame _ _, rfl⟩
  opened.bindNames (Nat.le_refl _) closure.parameters arguments

/-- After what changes no frame, a name is bound in a frame beside the names that it had. -/
theorem frame?_bind {before after : Machine} {id : FrameId} {frame : Frame}
    (precedes : before.Precedes after) (present : before.store.frame? id = some frame)
    (name : String) (value : Value) :
    (after.bind id name value).store.frame? id = some (frame.bind name value) := by
  have inside : id < before.store.size := Store.frame?_isSome.mp (by rw [present]; rfl)
  rw [Machine.bind, Store.frame?_bind_self, precedes.store.frame?_eq id inside, present]
  rfl

end Precedes

/-- The frame is there, and this is what it sees. -/
structure Sees (machine : Machine) (frame : FrameId) (scope : Scope) : Prop where
  inside : frame < machine.store.size
  lookup? : machine.store.lookup? frame = scope

namespace Sees

variable {machine after : Machine} {frame : FrameId} {scope : Scope}

/-- A frame without a parent sees what it binds. -/
theorem of_frame? {bindings : Table String Value}
    (present : machine.store.frame? frame = some ⟨bindings, none⟩) :
    machine.Sees frame fun name => Table.find? name bindings := by
  refine ⟨Store.frame?_isSome.mp (by rw [present]; rfl), ?_⟩
  funext name
  cases bound : Table.find? name bindings with
  | some value => exact Store.lookup?_of_bound present bound
  | none => exact Store.lookup?_of_outermost present bound rfl

theorem of_precedes (sees : machine.Sees frame scope) (precedes : machine.Precedes after) :
    after.Sees frame scope := by
  refine ⟨Nat.lt_of_lt_of_le sees.inside precedes.store.size_le, ?_⟩
  rw [← sees.lookup?]
  funext name
  exact precedes.store.lookup?_eq name sees.inside

theorem bind (sees : machine.Sees frame scope) (name : String) (value : Value) :
    (machine.bind frame name value).Sees frame (scope.bind name value) := by
  refine ⟨Nat.lt_of_lt_of_eq sees.inside (Store.size_bind _ _ _ _).symm, ?_⟩
  rw [← sees.lookup?]
  exact Store.lookup?_bind_self sees.inside name value

theorem bindNames (sees : machine.Sees frame scope) (names : List String) (values : List Value) :
    (machine.bindNames frame names values).Sees frame (scope.bindNames names values) := by
  induction names generalizing values machine scope with
  | nil => exact sees
  | cons name names ih =>
      cases values with
      | nil => exact sees
      | cons value values => exact ih (sees.bind name value) values

/-- The frame of a call sees the parameters inside what the frame of the closure sees. -/
theorem enter {closure : Closure} (sees : machine.Sees closure.frame scope)
    (arguments : List Value) : (machine.enter closure arguments).Sees machine.store.size
      (scope.bindNames closure.parameters arguments) := by
  refine bindNames ⟨?_, ?_⟩ closure.parameters arguments
  · rw [Store.size_openFrame]
    exact Nat.lt_succ_self _
  · rw [← sees.lookup?]
    exact Store.lookup?_openFrame_self sees.inside

end Sees

end Machine

/-! ## Attaining a property -/

namespace Process

variable {α β : Type} {process : Process α} {start : Machine} {property : α → Prop}

/-- From every machine after the first one, the process ends with a value that has the property, on
a machine after that one. -/
def Attains (process : Process α) (start : Machine) (property : α → Prop) : Prop :=
  ∀ machine, start.Precedes machine → ∃ value after,
    process.Ends machine (.value value) after ∧ machine.Precedes after ∧ property value

theorem Attains.of_precedes {machine : Machine} (attains : process.Attains start property)
    (precedes : start.Precedes machine) : process.Attains machine property :=
  fun later more => attains later (precedes.trans more)

theorem Attains.mono {weaker : α → Prop} (attains : process.Attains start property)
    (implies : ∀ value, property value → weaker value) : process.Attains start weaker := by
  intro machine precedes
  obtain ⟨value, after, ends, more, holds⟩ := attains machine precedes
  exact ⟨value, after, ends, more, implies value holds⟩

theorem Attains.bind {next : α → Process β} {final : β → Prop}
    (first : process.Attains start property)
    (rest : ∀ value, property value → (next value).Attains start final) :
    Process.Attains (fun depth => process depth >>= fun value => next value depth) start final := by
  intro machine precedes
  obtain ⟨value, middle, ends, more, holds⟩ := first machine precedes
  obtain ⟨result, after, ends', further, holds'⟩ :=
    rest value holds middle (precedes.trans more)
  exact ⟨result, after, ends.bind next ends', more.trans further, holds'⟩

theorem Attains.map {f : α → β} {final : β → Prop}
    (attains : process.Attains start fun value => final (f value)) :
    Process.Attains (fun depth => f <$> process depth) start final := by
  intro machine precedes
  obtain ⟨value, after, ends, more, holds⟩ := attains machine precedes
  exact ⟨f value, after, ends.map, more, holds⟩

/-- What has its value at once attains whatever the value has. -/
theorem attains_pure {value : α} (holds : property value) :
    Process.Attains (fun _ => pure value) start property :=
  fun machine _ => ⟨value, machine, ends_of_forall fun _ => rfl, .refl machine, holds⟩

end Process

/-! ## Expressions -/

/-- In the frame, the expression attains the property from the machine. -/
def Expression.Attains (expression : Expression) (frame : FrameId) (start : Machine)
    (property : Value → Prop) : Prop :=
  Process.Attains (fun depth => evaluate depth frame expression) start property

namespace Expression

variable {frame : FrameId} {start : Machine} {property : Value → Prop} {scope : Scope}

theorem Attains.of_step {expression : Expression}
    (attains : Process.Attains (fun depth => (evaluate depth).step frame expression) start
      property) : expression.Attains frame start property := by
  intro machine precedes
  obtain ⟨value, after, ends, more, holds⟩ := attains machine precedes
  exact ⟨value, after, ends.step fun _ => rfl, more, holds⟩

/-- A name that is bound has that value. -/
theorem Attains.identifier {name : String} {value : Value} (sees : start.Sees frame scope)
    (bound : scope name = some value) :
    (Expression.identifier name).Attains frame start (· = value) := by
  refine Attains.of_step fun machine precedes => ⟨value, machine, ?_, .refl machine, rfl⟩
  refine Process.ends_of_forall fun _ => ?_
  have found : machine.store.lookup? frame name = some value := by
    rw [(sees.of_precedes precedes).lookup?, bound]
  refine ((Computation.reads_lookup? machine frame name).bind ?_)
  rw [found]
  exact Computation.reads_pure value

/-- A name that is not bound calls its builtin. -/
theorem Attains.builtin {builtin : Builtin} (sees : start.Sees frame scope)
    (unbound : scope builtin.name = none) :
    (Expression.identifier builtin.name).Attains frame start (· = Value.builtin builtin) := by
  refine Attains.of_step fun machine precedes =>
    ⟨Value.builtin builtin, machine, ?_, .refl machine, rfl⟩
  refine Process.ends_of_forall fun _ => ?_
  have found : machine.store.lookup? frame builtin.name = none := by
    rw [(sees.of_precedes precedes).lookup?, unbound]
  refine ((Computation.reads_lookup? machine frame builtin.name).bind ?_)
  rw [found]
  simp only [Builtin.ofName?_name]
  exact Computation.reads_pure (Value.builtin builtin)

theorem Attains.integer (value : Int64) :
    (Expression.integer value).Attains frame start (· = .integer value) :=
  Attains.of_step (Process.attains_pure rfl)

/-- A function literal makes a closure over the frame. -/
theorem Attains.function (parameters : List String) (body : Block) :
    (Expression.function parameters body).Attains frame start fun value =>
      ∃ stamp, value = .function ⟨parameters, body, frame, stamp⟩ := by
  refine Attains.of_step fun machine _ => ⟨.function ⟨parameters, body, frame, machine.stamp⟩,
    { machine with stamp := machine.stamp + 1 }, ?_, ⟨.refl _, rfl⟩, machine.stamp, rfl⟩
  exact Process.ends_of_forall fun _ => rfl

/-! ### Operands -/

theorem attains_nil :
    Process.Attains (fun depth => (evaluate depth).list frame []) start (· = []) :=
  Process.attains_pure rfl

theorem Attains.cons {first : Expression} {rest : List Expression} {others : List Value → Prop}
    (head : first.Attains frame start property)
    (tail : Process.Attains (fun depth => (evaluate depth).list frame rest) start others) :
    Process.Attains (fun depth => (evaluate depth).list frame (first :: rest)) start fun values =>
      ∃ value more, values = value :: more ∧ property value ∧ others more := by
  refine Process.Attains.bind head fun value holds => ?_
  simp only [bind_pure_comp]
  exact (tail.mono fun more holds' => ⟨value, more, rfl, holds, holds'⟩).map

/-- The values of expressions, one by one. -/
theorem attains_list {expressions : List Expression} {values : List Value}
    (each : List.Forall₂ (fun expression value => expression.Attains frame start (· = value))
      expressions values) :
    Process.Attains (fun depth => (evaluate depth).list frame expressions) start (· = values) := by
  induction each with
  | nil => exact attains_nil
  | cons head _ ih =>
      refine (head.cons ih).mono ?_
      rintro _ ⟨_, _, rfl, rfl, rfl⟩
      rfl

/-- An expression whose operands are all evaluated finishes with their values. -/
theorem Attains.of_operands {expression : Expression} {operands : List Expression}
    {values : List Value} (strict : expression.operands? = some operands)
    (each : List.Forall₂ (fun operand value => operand.Attains frame start (· = value))
      operands values)
    (finish : Process.Attains (fun depth => (evaluate depth).finish frame expression values) start
      property) : expression.Attains frame start property := by
  refine Attains.of_step ?_
  simp only [Evaluator.step_eq strict]
  refine (attains_list each).bind ?_
  rintro _ rfl
  exact finish

theorem Attains.array {elements : List Expression} {values : List Value}
    (each : List.Forall₂ (fun element value => element.Attains frame start (· = value))
      elements values) : (Expression.array elements).Attains frame start (· = .array values) :=
  Attains.of_operands rfl each (Process.attains_pure rfl)

theorem Attains.binary {operator : BinaryOperator} {left right : Expression}
    {first second value : Value} (leftward : left.Attains frame start (· = first))
    (rightward : right.Attains frame start (· = second))
    (applied : first.applyBinary operator second = .ok value) :
    (Expression.binary operator left right).Attains frame start (· = value) := by
  refine Attains.of_operands rfl (.cons leftward (.cons rightward .nil)) ?_
  simp only [Evaluator.finish, applied]
  exact Process.attains_pure rfl

/-- A conditional attains what the branch attains that its condition chooses. -/
theorem Attains.conditional {condition : Expression} {consequence body : Block}
    {alternative : Option Block} {value : Value}
    (tested : condition.Attains frame start (· = value))
    (chosen : (if value.isTruthy then some consequence else alternative) = some body)
    (branch : Process.Attains (fun depth => (evaluate depth).block frame body) start property) :
    (Expression.conditional condition consequence alternative).Attains frame start property := by
  refine Attains.of_operands rfl (.cons tested .nil) ?_
  simp only [Evaluator.finish_conditional chosen]
  exact branch

end Expression

/-! ## Blocks -/

section Blocks

variable {frame : FrameId} {start machine middle after : Machine} {property : Value → Prop}

theorem block_evaluate (evaluator : Evaluator) (expression : Expression) :
    evaluator.block frame [.evaluate expression] = evaluator frame expression := by
  rw [Evaluator.block, Evaluator.statements, Evaluator.statement]
  exact bind_pure _

/-- A block that is one expression attains what the expression attains. -/
theorem Expression.Attains.block {expression : Expression}
    (attains : expression.Attains frame start property) :
    Process.Attains (fun depth => (evaluate depth).block frame [.evaluate expression]) start
      property := by
  simp only [block_evaluate]
  exact attains

/-- After a binding statement a block goes on with the name bound. -/
theorem ends_block_bind {name : String} {value : Expression} {rest : Block} {bound : Value}
    {ending : Ending Value}
    (first : Process.Ends (fun depth => evaluate depth frame value) machine (.value bound) middle)
    (others : Process.Ends (fun depth => (evaluate depth).block frame rest)
      (middle.bind frame name bound) ending after) :
    Process.Ends (fun depth => (evaluate depth).block frame (.bind name value :: rest)) machine
      ending after := by
  have whole : ∀ evaluator : Evaluator, evaluator.block frame (.bind name value :: rest) =
      evaluator frame value >>= fun bound => Computation.bindName frame name bound >>= fun _ =>
        evaluator.block frame rest := by
    intro evaluator
    simp only [Evaluator.block, Evaluator.statements, Evaluator.statement, bind_assoc, pure_bind]
  simp only [whole]
  exact first.bind (fun bound depth => Computation.bindName frame name bound >>= fun _ =>
    (evaluate depth).block frame rest) others

end Blocks

/-! ## Calls -/

namespace Evaluator

variable {start : Machine} {property : Value → Prop}

/-- A builtin that prints nothing has the value that it computes. -/
theorem attains_apply_builtin {builtin : Builtin} {arguments : List Value} {value : Value}
    (silent : builtin.prints arguments = "") (computes : builtin.apply arguments = .ok value) :
    Process.Attains (fun depth => (evaluate depth).apply (.builtin builtin) arguments) start
      (· = value) := by
  refine fun machine _ => ⟨value, machine, ?_, .refl machine, rfl⟩
  refine Process.ends_of_forall fun _ => ?_
  have prints : (Computation.print "").Reads machine () := by
    rw [Computation.Reads, Computation.print, String.append_empty]
  rw [Evaluator.apply, silent, computes]
  exact prints.bind (Computation.reads_pure value)

variable {closure : Closure} {arguments : List Value}

/-- A function attains what its body attains in the frame of the call, if the body leaves the frames
before the call alone. -/
theorem attains_apply_closure (arity : closure.parameters.length = arguments.length)
    (body : ∀ machine, start.Precedes machine → ∃ value after,
      Process.Ends (fun depth => (evaluate depth).block machine.store.size closure.body)
        (machine.enter closure arguments) (.value value) after ∧
        machine.Precedes after ∧ property value) :
    Process.Attains (fun depth => (evaluate depth).apply (.function closure) arguments) start
      property := by
  intro machine precedes
  obtain ⟨value, after, ends, more, holds⟩ := body machine precedes
  refine ⟨value, after, ?_, more, holds⟩
  exact (Process.ends_settle (.inl ends)).congr fun depth => apply_closure arity

/-- The same for a body that changes no frame at all: it attains what it attains in the scope of the
call. -/
theorem attains_apply {scope : Scope} (arity : closure.parameters.length = arguments.length)
    (sees : start.Sees closure.frame scope)
    (body : ∀ {frame : FrameId} {machine : Machine}, start.Precedes machine →
      machine.Sees frame (scope.bindNames closure.parameters arguments) →
        Process.Attains (fun depth => (evaluate depth).block frame closure.body) machine property) :
    Process.Attains (fun depth => (evaluate depth).apply (.function closure) arguments) start
      property := by
  refine attains_apply_closure arity fun machine precedes => ?_
  have entered := Machine.Precedes.enter machine closure arguments
  have attains := body (precedes.trans entered) ((sees.of_precedes precedes).enter arguments)
  obtain ⟨value, after, ends, more, holds⟩ := attains _ (.refl _)
  exact ⟨value, after, ends, entered.trans more, holds⟩

end Evaluator

namespace Expression

variable {frame : FrameId} {start : Machine} {property : Value → Prop} {scope : Scope}

theorem reads_meansQuote {callee : Expression} (plain : callee ≠ .identifier "quote")
    (machine : Machine) : (Evaluator.meansQuote frame callee).Reads machine false := by
  unfold Evaluator.meansQuote
  split
  · exact absurd rfl plain
  · exact Computation.reads_pure false

/-- A call evaluates the callee and the arguments, and attains what the one applied to the others
attains. -/
theorem Attains.call {callee : Expression} {arguments : List Expression}
    {called : Value → Prop} {given : List Value → Prop} (plain : callee ≠ .identifier "quote")
    (calls : callee.Attains frame start called)
    (gives : Process.Attains (fun depth => (evaluate depth).list frame arguments) start given)
    (applied : ∀ value values, called value → given values →
      Process.Attains (fun depth => (evaluate depth).apply value values) start property) :
    (Expression.call callee arguments).Attains frame start property := by
  have first : ∀ values, (∃ value more, values = value :: more ∧ called value ∧ given more) →
      Process.Attains (fun depth => (evaluate depth).applyFirst values) start property := by
    rintro _ ⟨value, values, rfl, holds, holds'⟩
    exact applied value values holds holds'
  have parts : Process.Attains (fun depth => (evaluate depth).list frame (callee :: arguments) >>=
      (evaluate depth).applyFirst) start property :=
    (calls.cons gives).bind first
  refine Attains.of_step fun machine precedes => ?_
  obtain ⟨value, after, ends, more, holds⟩ := parts machine precedes
  refine ⟨value, after, ?_, more, holds⟩
  exact ends.congr fun depth => Evaluator.call_of_plain (reads_meansQuote plain machine)

/-- A call of a builtin by its name. -/
theorem Attains.call_builtin {builtin : Builtin} {arguments : List Expression}
    {values : List Value} {value : Value} (sees : start.Sees frame scope)
    (unbound : scope builtin.name = none)
    (gives : List.Forall₂ (fun argument value => argument.Attains frame start (· = value))
      arguments values)
    (silent : builtin.prints values = "") (computes : builtin.apply values = .ok value) :
    (Expression.call (.identifier builtin.name) arguments).Attains frame start (· = value) := by
  have plain : builtin.name ≠ "quote" := by
    cases builtin <;> decide
  refine Attains.call (fun same => plain (Expression.identifier.inj same))
    (Attains.builtin sees unbound) (attains_list gives) ?_
  rintro _ _ rfl rfl
  exact Evaluator.attains_apply_builtin silent computes

/-- A call of a value that is bound to a name. -/
theorem Attains.call_bound {name : String} {callee : Value} {arguments : List Expression}
    {values : List Value} (sees : start.Sees frame scope) (bound : scope name = some callee)
    (plain : name ≠ "quote")
    (gives : List.Forall₂ (fun argument value => argument.Attains frame start (· = value))
      arguments values)
    (applied : Process.Attains (fun depth => (evaluate depth).apply callee values) start
      property) : (Expression.call (.identifier name) arguments).Attains frame start property := by
  refine Attains.call (fun same => plain (Expression.identifier.inj same))
    (Attains.identifier sees bound) (attains_list gives) ?_
  rintro _ _ rfl rfl
  exact applied

end Expression

end MonkeyLang
