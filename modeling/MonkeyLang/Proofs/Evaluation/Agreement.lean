import MonkeyLang.Evaluation
import MonkeyLang.Proofs.Evaluation.Reachability
import MonkeyLang.Proofs.Evaluation.Unquoting
import MonkeyLang.Proofs.Store.History
import MonkeyLang.Proofs.Value.Tables

/-!
# Runs that agree but for one name

Two machines agree but for one name when they have the same frames and every frame binds every other
name to the same value. A computation that ignores the name keeps them in step: it ends on both with
the same result and leaves machines that agree again.

For a computation to ignore the name, the functions that it can come to call must not mention it.
Such functions are found in frames of a set that is closed under what its members hold
(`Machine.Closed`): a frame in the set has its parent in the set, and every function that a name in
it is bound to mentions the name nowhere and has its frame in the set. New frames belong to the set
from the beginning. So what is known of the values is carried along with the agreement.
-/

set_option autoImplicit false

namespace MonkeyLang

/-! ## Names in syntax -/

mutual
/-- The names that a statement mentions: those it binds, those of parameters, and those it uses. -/
def Statement.names : Statement → List String
  | .bind name value => name :: value.names
  | .ret value => value.names
  | .evaluate expression => expression.names
  | .group body => namesIn body

/-- The names that statements mention. -/
def namesIn : List Statement → List String
  | [] => []
  | first :: rest => first.names ++ namesIn rest

/-- The names that an expression mentions. -/
def Expression.names : Expression → List String
  | .identifier name => [name]
  | .integer _ | .string _ | .boolean _ => []
  | .unary _ operand => operand.names
  | .binary _ left right => left.names ++ right.names
  | .conditional condition consequence none => condition.names ++ namesIn consequence
  | .conditional condition consequence (some alternative) =>
    condition.names ++ (namesIn consequence ++ namesIn alternative)
  | .function parameters body => parameters ++ namesIn body
  | .call callee arguments => callee.names ++ namesInList arguments
  | .array elements => namesInList elements
  | .index collection position => collection.names ++ position.names
  | .hash pairs => namesInPairs pairs
  | .macroLiteral parameters body => parameters ++ namesIn body

/-- The names that expressions mention. -/
def namesInList : List Expression → List String
  | [] => []
  | first :: rest => first.names ++ namesInList rest

/-- The names that pairs mention. -/
def namesInPairs : List (Expression × Expression) → List String
  | [] => []
  | (key, value) :: rest => key.names ++ (value.names ++ namesInPairs rest)
end

/-- The names that a closure mentions, its parameters and those of its body. -/
def Closure.names (closure : Closure) : List String :=
  closure.parameters ++ namesIn closure.body

/-! ## Functions that a value holds -/

/-- The value is the function, or an element or entry holds it. -/
inductive Value.Holds : Value → Closure → Prop where
  | function (closure : Closure) : Holds (.function closure) closure
  | element {elements : List Value} {element : Value} {closure : Closure} (mem : element ∈ elements)
    (holds : Holds element closure) : Holds (.array elements) closure
  | key {table : HashTable} {key : HashKey} {source stored : Value} {closure : Closure}
    (mem : (key, (source, stored)) ∈ table) (holds : Holds source closure) :
    Holds (.hash table) closure
  | entry {table : HashTable} {key : HashKey} {source stored : Value} {closure : Closure}
    (mem : (key, (source, stored)) ∈ table) (holds : Holds stored closure) :
    Holds (.hash table) closure

/-- A value leads to what the functions that it holds lead to. -/
theorem Value.Holds.leads {store : Store} {value part : Value} {closure : Closure}
    (holds : value.Holds closure) (leads : store.Leads (.function closure) part) :
    store.Leads value part := by
  induction holds with
  | function closure => exact leads
  | element mem _ ih => exact .element mem (ih leads)
  | key mem _ ih => exact .key mem (ih leads)
  | entry mem _ ih => exact .entry mem (ih leads)

/-- Of the functions in a hash with a key set, each one comes from what was set or was there. -/
theorem Value.holds_of_set {table : HashTable} {key : HashKey} {source stored : Value}
    {closure : Closure} (holds : (Value.hash (table.set key (source, stored))).Holds closure) :
    source.Holds closure ∨ stored.Holds closure ∨ (Value.hash table).Holds closure := by
  cases holds with
  | key mem holds =>
      rcases Table.mem_of_mem_set mem with same | mem
      · cases same
        exact .inl holds
      · exact .inr (.inr (.key mem holds))
  | entry mem holds =>
      rcases Table.mem_of_mem_set mem with same | mem
      · cases same
        exact .inr (.inl holds)
      · exact .inr (.inr (.entry mem holds))

/-! ### Operations make no functions -/

theorem Value.not_holds_of_applyUnary {operator : UnaryOperator} {operand value : Value}
    (applies : operand.applyUnary operator = .ok value) (closure : Closure) :
    ¬ value.Holds closure := by
  unfold Value.applyUnary at applies
  split at applies <;> cases applies <;> exact nofun

theorem Value.not_holds_of_applyBinary {operator : BinaryOperator} {left right value : Value}
    (applies : left.applyBinary operator right = .ok value) (closure : Closure) :
    ¬ value.Holds closure := by
  unfold Value.applyBinary Value.applyToIntegers Value.applyToStrings at applies
  repeat' split at applies
  all_goals cases applies <;> exact nofun

theorem Value.holds_of_getD {found : Option Value} {closure : Closure}
    (holds : (found.getD .null).Holds closure) : ∃ value, found = some value ∧
      value.Holds closure := by
  cases found with
  | none => cases holds
  | some value => exact ⟨value, rfl, holds⟩

/-- What is found in a collection holds only functions that the collection holds. -/
theorem Value.holds_of_applyIndex {collection position value : Value}
    (applies : collection.applyIndex position = .ok value) {closure : Closure}
    (holds : value.Holds closure) : collection.Holds closure := by
  unfold Value.applyIndex at applies
  split at applies
  · next elements position =>
    cases applies
    obtain ⟨element, found, holds⟩ := Value.holds_of_getD holds
    unfold Value.elementAt? at found
    split at found
    · cases found
    · exact .element (List.mem_of_getElem? found) holds
  · cases hashed : position.hashKey with
    | error cause =>
        rw [hashed] at applies
        cases applies
    | ok key =>
        rw [hashed] at applies
        cases applies
        obtain ⟨element, found, holds⟩ := Value.holds_of_getD holds
        obtain ⟨⟨source, stored⟩, kept, rfl⟩ := Option.map_eq_some_iff.mp found
        exact .entry (Table.mem_of_find? kept) holds
  · cases applies

section

variable {α : Type} {arguments : List Value} {value : Value} {result : α}

theorem Builtin.of_onlyArgument {next : Value → Except RuntimeError α}
    (gives : Builtin.onlyArgument arguments >>= next = .ok result) :
    ∃ argument, arguments = [argument] ∧ next argument = .ok result := by
  rcases arguments with _ | ⟨argument, _ | _⟩
  · cases gives
  · exact ⟨argument, rfl, gives⟩
  · cases gives

theorem Builtin.of_elementsOf {builtin : Builtin} {next : List Value → Except RuntimeError α}
    (gives : builtin.elementsOf value >>= next = .ok result) :
    ∃ elements, value = .array elements ∧ next elements = .ok result := by
  cases value with
  | array elements => exact ⟨elements, rfl, gives⟩
  | _ => cases gives

/-- What a builtin gives holds only functions that an argument holds. -/
theorem Builtin.holds_of_apply {builtin : Builtin} (applies : builtin.apply arguments = .ok value)
    {closure : Closure} (holds : value.Holds closure) :
    ∃ argument ∈ arguments, argument.Holds closure := by
  cases builtin with
  | len =>
      obtain ⟨argument, rfl, applies⟩ := Builtin.of_onlyArgument applies
      cases argument <;> cases applies <;> cases holds
  | first =>
      obtain ⟨argument, rfl, applies⟩ := Builtin.of_onlyArgument applies
      obtain ⟨elements, rfl, applies⟩ := Builtin.of_elementsOf applies
      cases applies
      obtain ⟨element, found, holds⟩ := Value.holds_of_getD holds
      exact ⟨_, List.mem_cons_self, .element (List.mem_of_head? found) holds⟩
  | last =>
      obtain ⟨argument, rfl, applies⟩ := Builtin.of_onlyArgument applies
      obtain ⟨elements, rfl, applies⟩ := Builtin.of_elementsOf applies
      cases applies
      obtain ⟨element, found, holds⟩ := Value.holds_of_getD holds
      exact ⟨_, List.mem_cons_self, .element (List.mem_of_getLast? found) holds⟩
  | rest =>
      obtain ⟨argument, rfl, applies⟩ := Builtin.of_onlyArgument applies
      obtain ⟨elements, rfl, applies⟩ := Builtin.of_elementsOf applies
      cases elements with
      | nil =>
          cases applies
          cases holds
      | cons first elements =>
          cases applies
          cases holds with
          | element mem holds =>
              exact ⟨_, List.mem_cons_self, .element (List.mem_cons_of_mem _ mem) holds⟩
  | push =>
      rcases arguments with _ | ⟨collection, _ | ⟨pushed, _ | _⟩⟩
      case cons.cons.nil =>
        obtain ⟨elements, rfl, applies⟩ := Builtin.of_elementsOf applies
        cases applies
        cases holds with
        | element mem holds =>
            rcases List.mem_append.mp mem with mem | mem
            · exact ⟨_, List.mem_cons_self, .element mem holds⟩
            · cases List.mem_singleton.mp mem
              exact ⟨_, List.mem_cons_of_mem _ List.mem_cons_self, holds⟩
      all_goals cases applies
  | puts =>
      cases applies
      cases holds

end

/-! ## Machines -/

/-- The machines have the same frames around each other, and every frame binds every name but one to
the same value. -/
structure Machine.AgreeBut (name : String) (machine machine' : Machine) : Prop where
  size : machine'.store.size = machine.store.size
  outer? : ∀ id, machine'.store.outer? id = machine.store.outer? id
  bound? : ∀ id, ∀ other ≠ name, machine'.store.bound? id other = machine.store.bound? id other
  stamp : machine'.stamp = machine.stamp
  printed : machine'.printed = machine.printed

/-- The functions that the value holds do not mention the name, and their frames are in the set. -/
def Value.Avoids (name : String) (inside : FrameId → Prop) (value : Value) : Prop :=
  ∀ closure, value.Holds closure → name ∉ closure.names ∧ inside closure.frame

/-- The set of frames holds every frame around one of its members and the frame of every function
that a member binds, and these functions do not mention the name. It holds every frame that is yet
to be opened. What the name itself is bound to is left open. -/
structure Machine.Closed (name : String) (inside : FrameId → Prop) (machine : Machine) : Prop where
  opened : ∀ id, machine.store.size ≤ id → inside id
  outer : ∀ id, inside id → ∀ parent, machine.store.outer? id = some parent → inside parent
  bound : ∀ id, inside id → ∀ other ≠ name, ∀ value,
    machine.store.bound? id other = some value → value.Avoids name inside

variable {name other : String} {inside : FrameId → Prop} {machine machine' : Machine}

namespace Machine

/-- Machines that agree but for one name see the same values of the others. -/
theorem AgreeBut.lookup? (agree : machine.AgreeBut name machine') (distinct : other ≠ name)
    (id : FrameId) : machine'.store.lookup? id other = machine.store.lookup? id other := by
  -- On the number of the frame: a parent has a smaller one.
  induction id using Nat.strongRecOn with
  | ind id ih =>
      rw [Store.lookup?_eq, Store.lookup?_eq _ id, agree.bound? id other distinct, agree.outer? id]
      cases around : machine.store.outer? id with
      | none => rfl
      | some parent => exact congrArg _ (ih parent (Store.outer?_lt around))

/-- A value that a frame of the set sees holds only functions that the set allows. -/
theorem Closed.lookup? (closed : machine.Closed name inside) (distinct : other ≠ name)
    {value : Value} : ∀ {id : FrameId}, inside id → machine.store.lookup? id other = some value →
      value.Avoids name inside := by
  intro id
  -- On the number of the frame, as above.
  induction id using Nat.strongRecOn with
  | ind id ih =>
      intro mem found
      rw [Store.lookup?_eq] at found
      cases bound : machine.store.bound? id other with
      | some stored =>
          rw [bound] at found
          cases found
          exact closed.bound id mem other distinct value bound
      | none =>
          rw [bound, Option.none_or, Option.bind_eq_some_iff] at found
          obtain ⟨parent, around, found⟩ := found
          exact ih parent (Store.outer?_lt around) (closed.outer id mem parent around) found

end Machine

/-- The machines agree but for the name, and the set is closed under what its frames hold. -/
structure Machine.InStep (name : String) (inside : FrameId → Prop) (machine machine' : Machine) :
    Prop where
  agree : machine.AgreeBut name machine'
  closed : machine.Closed name inside

/-- A binding in a frame that is not there changes nothing. -/
theorem Store.bound?_bind_of_missing (store : Store) {id : FrameId} (missing : store.size ≤ id)
    (name : String) (value : Value) (seen : FrameId) (wanted : String) :
    (store.bind id name value).bound? seen wanted = store.bound? seen wanted := by
  rw [Store.bound?, Store.bound?]
  by_cases same : seen = id
  · rw [same, Store.frame?_bind_self, Store.frame?_eq_none missing]
    rfl
  · rw [Store.frame?_bind_of_ne same]

namespace Machine

variable {frame : FrameId}

theorem AgreeBut.bind (agree : machine.AgreeBut name machine') (frame : FrameId) (wanted : String)
    (value : Value) :
    AgreeBut name { machine with store := machine.store.bind frame wanted value }
      { machine' with store := machine'.store.bind frame wanted value } where
  size := by simpa using agree.size
  outer? id := by simpa only [Store.outer?_bind] using agree.outer? id
  bound? id other distinct := by
    rcases Nat.lt_or_ge frame machine.store.size with old | missing
    · have old' : frame < machine'.store.size := agree.size ▸ old
      rw [Store.bound?_bind _ old, Store.bound?_bind _ old', agree.bound? id other distinct]
    · have missing' : machine'.store.size ≤ frame := agree.size ▸ missing
      rw [Store.bound?_bind_of_missing _ missing, Store.bound?_bind_of_missing _ missing',
        agree.bound? id other distinct]
  stamp := agree.stamp
  printed := agree.printed

theorem Closed.bind (closed : machine.Closed name inside) (frame : FrameId) (wanted : String)
    {value : Value} (avoids : value.Avoids name inside) :
    Closed name inside { machine with store := machine.store.bind frame wanted value } where
  opened id new := closed.opened id (by simpa using new)
  outer id mem parent around := closed.outer id mem parent (by rwa [Store.outer?_bind] at around)
  bound id mem other distinct stored found := by
    rcases Nat.lt_or_ge frame machine.store.size with old | missing
    · rw [Store.bound?_bind _ old] at found
      split at found
      · cases found
        exact avoids
      · exact closed.bound id mem other distinct stored found
    · rw [Store.bound?_bind_of_missing _ missing] at found
      exact closed.bound id mem other distinct stored found

theorem AgreeBut.openFrame (agree : machine.AgreeBut name machine') (outer : Option FrameId) :
    AgreeBut name { machine with store := machine.store.openFrame outer }
      { machine' with store := machine'.store.openFrame outer } where
  size := by simpa using agree.size
  outer? id := by rw [Store.outer?_openFrame, Store.outer?_openFrame, agree.size, agree.outer? id]
  bound? id other distinct := by
    simpa only [Store.bound?_openFrame] using agree.bound? id other distinct
  stamp := agree.stamp
  printed := agree.printed

theorem Closed.openFrame (closed : machine.Closed name inside) (mem : inside frame) :
    Closed name inside { machine with store := machine.store.openFrame (some frame) } where
  opened id new := closed.opened id (by simp at new; omega)
  outer id inSet parent around := by
    rw [Store.outer?_openFrame] at around
    split at around
    · obtain ⟨same, -⟩ := Option.filter_eq_some_iff.mp around
      cases same
      exact mem
    · exact closed.outer id inSet parent around
  bound id inSet other distinct stored found := by
    rw [Store.bound?_openFrame] at found
    exact closed.bound id inSet other distinct stored found

end Machine

/-! ## Computations -/

/-- The same ending on machines in step, with a good value, or with one that avoids the name if it
is returned. -/
inductive Ending.InStep {α : Type} (name : String) (inside : FrameId → Prop) (good : α → Prop) :
    Ending α × Machine → Ending α × Machine → Prop where
  | value {value : α} {machine machine' : Machine} (holds : good value)
    (machines : machine.InStep name inside machine') :
    InStep name inside good (.value value, machine) (.value value, machine')
  | returned {value : Value} {machine machine' : Machine} (avoids : value.Avoids name inside)
    (machines : machine.InStep name inside machine') :
    InStep name inside good (.returned value, machine) (.returned value, machine')
  | failed {cause : RuntimeError} {machine machine' : Machine}
    (machines : machine.InStep name inside machine') :
    InStep name inside good (.failed cause, machine) (.failed cause, machine')

/-- On machines in step the computation ends in the same way and leaves them in step, or it is given
up on both. -/
def Computation.Ignores {α : Type} (name : String) (inside : FrameId → Prop) (good : α → Prop)
    (computation : Computation α) : Prop :=
  ∀ machine machine', machine.InStep name inside machine' →
    Option.Rel (Ending.InStep name inside good) (computation machine) (computation machine')

namespace Computation

variable {α β : Type} {good : α → Prop} {good' : β → Prop}

theorem ignores_pure {value : α} (holds : good value) :
    (pure value : Computation α).Ignores name inside good :=
  fun _ _ machines => .some (.value holds machines)

theorem ignores_giveUp : (giveUp : Computation α).Ignores name inside good :=
  fun _ _ _ => .none

theorem ignores_returning {value : Value} (avoids : value.Avoids name inside) :
    (returning value).Ignores name inside good :=
  fun _ _ machines => .some (.returned avoids machines)

theorem ignores_fail (cause : RuntimeError) :
    (fail cause : Computation α).Ignores name inside good :=
  fun _ _ machines => .some (.failed machines)

theorem ignores_ofExcept {result : Except RuntimeError α}
    (holds : ∀ value, result = .ok value → good value) :
    (ofExcept result).Ignores name inside good := by
  cases result with
  | ok value => exact ignores_pure (holds value rfl)
  | error cause => exact ignores_fail cause

theorem ignores_ofExcept_any (result : Except RuntimeError α) :
    (ofExcept result).Ignores name inside fun _ => True :=
  ignores_ofExcept fun _ _ => trivial

theorem Ignores.bind {first : Computation α} {next : α → Computation β}
    (ignores : first.Ignores name inside good)
    (others : ∀ value, good value → (next value).Ignores name inside good') :
    (first >>= next).Ignores name inside good' := by
  intro machine machine' machines
  have reached := ignores machine machine' machines
  generalize run : first machine = ended at reached
  generalize run' : first machine' = ended' at reached
  cases reached with
  | none =>
      rw [bind_of_none run, bind_of_none run']
      exact .none
  | some reached =>
      cases reached with
      | value holds machines =>
          rw [bind_of_value run, bind_of_value run']
          exact others _ holds _ _ machines
      | returned avoids machines =>
          rw [bind_of_returned run, bind_of_returned run']
          exact .some (.returned avoids machines)
      | failed machines =>
          rw [bind_of_failed run, bind_of_failed run']
          exact .some (.failed machines)

theorem Ignores.settle {body : Computation Value}
    (ignores : body.Ignores name inside (Value.Avoids name inside)) :
    body.settle.Ignores name inside (Value.Avoids name inside) := by
  intro machine machine' machines
  have reached := ignores machine machine' machines
  rw [Computation.settle, Computation.settle]
  generalize body machine = ended at reached ⊢
  generalize body machine' = ended' at reached ⊢
  cases reached with
  | none => exact .none
  | some reached =>
      cases reached with
      | value avoids machines => exact .some (.value avoids machines)
      | returned avoids machines => exact .some (.value avoids machines)
      | failed machines => exact .some (.failed machines)

/-! ### Using the machine -/

variable {frame : FrameId}

theorem ignores_lookup? (mem : inside frame) (distinct : other ≠ name) :
    (Computation.lookup? frame other).Ignores name inside
      fun found => ∀ value, found = some value → value.Avoids name inside := by
  intro machine machine' machines
  rw [Computation.lookup?, Computation.lookup?, machines.agree.lookup? distinct frame]
  exact .some (.value (fun value found => machines.closed.lookup? distinct mem found) machines)

theorem ignores_bindName (frame : FrameId) (wanted : String) {value : Value}
    (avoids : value.Avoids name inside) :
    (bindName frame wanted value).Ignores name inside fun _ => True :=
  fun _ _ machines => .some (.value trivial
    ⟨machines.agree.bind frame wanted value, machines.closed.bind frame wanted avoids⟩)

theorem ignores_bindNames (frame : FrameId) : ∀ (names : List String) {values : List Value},
    (∀ value ∈ values, value.Avoids name inside) →
      (bindNames frame names values).Ignores name inside fun _ => True
  | [], _, _ => ignores_pure trivial
  | _ :: _, [], _ => ignores_pure trivial
  | wanted :: names, _ :: _, avoid =>
    (ignores_bindName frame wanted (avoid _ List.mem_cons_self)).bind fun _ _ =>
      ignores_bindNames frame names fun value mem => avoid value (List.mem_cons_of_mem _ mem)

theorem ignores_openFrame (mem : inside frame) :
    (openFrame frame).Ignores name inside inside := by
  intro machine machine' machines
  rw [openFrame, openFrame, machines.agree.size]
  exact .some (.value (machines.closed.opened _ (Nat.le_refl _))
    ⟨machines.agree.openFrame (some frame), machines.closed.openFrame mem⟩)

/-- A closure that is made has the given code, and the given frame is its frame. -/
theorem ignores_newClosure (parameters : List String) (body : Block) (frame : FrameId) :
    (newClosure parameters body frame).Ignores name inside fun closure =>
      closure.parameters = parameters ∧ closure.body = body ∧ closure.frame = frame := by
  intro machine machine' ⟨agree, closed⟩
  rw [newClosure, newClosure, agree.stamp]
  exact .some (.value ⟨rfl, rfl, rfl⟩ ⟨⟨agree.size, agree.outer?, agree.bound?, rfl, agree.printed⟩,
    closed.opened, closed.outer, closed.bound⟩)

theorem ignores_print (text : String) : (print text).Ignores name inside fun _ => True := by
  intro machine machine' ⟨agree, closed⟩
  have printed : machine'.printed ++ text = machine.printed ++ text :=
    congrArg (· ++ text) agree.printed
  exact .some (.value trivial ⟨⟨agree.size, agree.outer?, agree.bound?, agree.stamp, printed⟩,
    closed.opened, closed.outer, closed.bound⟩)

end Computation

end MonkeyLang
