import MonkeyLang.Evaluation
import MonkeyLang.Proofs.Evaluation.Sequencing

/-!
# Which frames an evaluation changes

Of the frames that were there before, an evaluation changes at most the one it
runs in, and there only the bindings of names that a binding statement of the
syntax names (`Store.ChangesOnly`). How it ends makes no difference. A call
opens a frame for the body, so it changes no frame that was there before
(`Store.Extends`), also when its body binds names, calls other closures or makes
new ones.

The evaluators of all depths have this property because a step passes it on from
the evaluator of the parts to the evaluator of the whole.
-/

set_option autoImplicit false

namespace MonkeyLang

/-! ## Names that syntax binds -/

mutual
/-- The names that the binding statements in a statement name. -/
def Statement.boundNames : Statement → List String
  | .bind name value => name :: value.boundNames
  | .ret value => value.boundNames
  | .evaluate expression => expression.boundNames
  | .group body => boundNamesOfStatements body

/-- The names that the binding statements in some statements name. -/
def boundNamesOfStatements : List Statement → List String
  | [] => []
  | first :: rest => first.boundNames ++ boundNamesOfStatements rest

/-- The names that the binding statements in an expression name. -/
def Expression.boundNames : Expression → List String
  | .identifier _ | .integer _ | .string _ | .boolean _ => []
  | .unary _ operand => operand.boundNames
  | .binary _ left right => left.boundNames ++ right.boundNames
  | .conditional condition consequence none =>
    condition.boundNames ++ boundNamesOfStatements consequence
  | .conditional condition consequence (some alternative) =>
    condition.boundNames ++ (boundNamesOfStatements consequence ++
      boundNamesOfStatements alternative)
  | .function _ body => boundNamesOfStatements body
  | .call callee arguments => callee.boundNames ++ boundNamesOfList arguments
  | .array elements => boundNamesOfList elements
  | .index collection position => collection.boundNames ++ position.boundNames
  | .hash pairs => boundNamesOfPairs pairs
  | .macroLiteral _ body => boundNamesOfStatements body

/-- The names that the binding statements in some expressions name. -/
def boundNamesOfList : List Expression → List String
  | [] => []
  | first :: rest => first.boundNames ++ boundNamesOfList rest

/-- The names that the binding statements in some pairs name. -/
def boundNamesOfPairs : List (Expression × Expression) → List String
  | [] => []
  | (key, value) :: rest => key.boundNames ++ (value.boundNames ++ boundNamesOfPairs rest)
end

/-! ## Changes to a store -/

/-- A frame with the same parent and the same bindings of all other names. -/
structure Frame.SameBut (names : List String) (before after : Frame) : Prop where
  parent : after.parent = before.parent
  bindings : ∀ name ∉ names, after.bindings.find? name = before.bindings.find? name

/-- Of the frames that were there, at most the given one is another now, and it differs in the
bindings of the given names only. -/
structure Store.ChangesOnly (frame : FrameId) (names : List String) (before after : Store) :
    Prop where
  size_le : before.size ≤ after.size
  others : ∀ id < before.size, id ≠ frame → after.frame? id = before.frame? id
  same : ∀ old, before.frame? frame = some old →
    ∃ new, after.frame? frame = some new ∧ Frame.SameBut names old new

namespace Store

variable {frame : FrameId} {names : List String} {before middle after : Store}

theorem Extends.changesOnly (extended : before.Extends after) (frame : FrameId)
    (names : List String) : before.ChangesOnly frame names after := by
  refine ⟨extended.size_le, fun id old _ => extended.frame?_eq id old, ?_⟩
  intro old present
  have inside : frame < before.size := frame?_isSome.mp (by rw [present]; rfl)
  exact ⟨old, (extended.frame?_eq frame inside).trans present, rfl, fun _ _ => rfl⟩

theorem ChangesOnly.trans (first : before.ChangesOnly frame names middle)
    (second : middle.ChangesOnly frame names after) : before.ChangesOnly frame names after := by
  refine ⟨Nat.le_trans first.size_le second.size_le, ?_, ?_⟩
  · intro id old other
    rw [second.others id (Nat.lt_of_lt_of_le old first.size_le) other, first.others id old other]
  · intro old present
    obtain ⟨between, present, one⟩ := first.same old present
    obtain ⟨new, present, two⟩ := second.same between present
    refine ⟨new, present, two.parent.trans one.parent, ?_⟩
    intro name other
    rw [two.bindings name other, one.bindings name other]

theorem ChangesOnly.mono {more : List String} (changes : before.ChangesOnly frame names after)
    (subset : names ⊆ more) : before.ChangesOnly frame more after := by
  refine ⟨changes.size_le, changes.others, ?_⟩
  intro old present
  obtain ⟨new, present, same⟩ := changes.same old present
  exact ⟨new, present, same.parent, fun name other => same.bindings name (mt (@subset name) other)⟩

theorem changesOnly_bind (store : Store) (frame : FrameId) (name : String) (value : Value) :
    store.ChangesOnly frame [name] (store.bind frame name value) := by
  refine ⟨by simp, fun id _ other => frame?_bind_of_ne other store name value, ?_⟩
  intro old present
  refine ⟨old.bind name value, by rw [frame?_bind_self, present]; rfl, rfl, ?_⟩
  intro other distinct
  exact Table.find?_set_of_ne (mt List.mem_singleton.mpr distinct) value old.bindings

/-- Changes to a frame that was not there before leave the store before as it was. -/
theorem Extends.trans_changesOnly (first : before.Extends middle)
    (second : middle.ChangesOnly frame names after) (new : before.size ≤ frame) :
    before.Extends after := by
  refine ⟨Nat.le_trans first.size_le second.size_le, ?_⟩
  intro id old
  have distinct : id ≠ frame := Nat.ne_of_lt (Nat.lt_of_lt_of_le old new)
  rw [second.others id (Nat.lt_of_lt_of_le old first.size_le) distinct, first.frame?_eq id old]

end Store

/-! ## Confined computations -/

namespace Computation

variable {α β : Type} {frame : FrameId} {names : List String}

/-- However it ends, the computation changes of the frames that were there only the given one, and
in it only the bindings of the given names. -/
def Confined (frame : FrameId) (names : List String) (computation : Computation α) : Prop :=
  ∀ machine ending after, computation machine = some (ending, after) →
    machine.store.ChangesOnly frame names after.store

theorem Confined.bind {first : Computation α} {next : α → Computation β}
    (confined : first.Confined frame names) (others : ∀ value, (next value).Confined frame names) :
    (first >>= next).Confined frame names := by
  intro machine ending after ends
  rcases of_bind_eq ends with ⟨value, middle, run, rest⟩ | ⟨early, run⟩
  · exact (confined _ _ _ run).trans (others value _ _ _ rest)
  · exact confined _ _ _ run

theorem Confined.settle {body : Computation Value} (confined : body.Confined frame names) :
    body.settle.Confined frame names := by
  intro machine ending after ends
  rw [Computation.settle] at ends
  split at ends
  · next run =>
    cases ends
    exact confined _ _ _ run
  · exact confined _ _ _ ends

/-- A computation that leaves the store as it is. -/
theorem confined_of_store_eq {computation : Computation α}
    (same : ∀ machine ending after, computation machine = some (ending, after) →
      after.store = machine.store) : computation.Confined frame names := by
  intro machine ending after ends
  rw [same machine ending after ends]
  exact (Store.Extends.refl _).changesOnly frame names

theorem confined_pure (value : α) : (pure value : Computation α).Confined frame names :=
  confined_of_store_eq fun _ _ _ ends => by cases ends; rfl

theorem confined_giveUp : (giveUp : Computation α).Confined frame names := by
  rintro _ _ _ ⟨⟩

theorem confined_returning (value : Value) :
    (returning value : Computation α).Confined frame names :=
  confined_of_store_eq fun _ _ _ ends => by cases ends; rfl

theorem confined_fail (cause : RuntimeError) : (fail cause : Computation α).Confined frame names :=
  confined_of_store_eq fun _ _ _ ends => by cases ends; rfl

theorem confined_ofExcept (result : Except RuntimeError α) :
    (ofExcept result).Confined frame names := by
  cases result with
  | ok value => exact confined_pure value
  | error cause => exact confined_fail cause

theorem confined_lookup? (seen : FrameId) (name : String) :
    (lookup? seen name).Confined frame names :=
  confined_of_store_eq fun _ _ _ ends => by cases ends; rfl

theorem confined_newClosure (parameters : List String) (body : Block) (outer : FrameId) :
    (newClosure parameters body outer).Confined frame names :=
  confined_of_store_eq fun _ _ _ ends => by cases ends; rfl

theorem confined_print (text : String) : (print text).Confined frame names :=
  confined_of_store_eq fun _ _ _ ends => by cases ends; rfl

theorem confined_bindName {name : String} (mem : name ∈ names) (value : Value) :
    (bindName frame name value).Confined frame names := by
  rintro machine _ _ ⟨⟩
  exact (machine.store.changesOnly_bind frame name value).mono (by simpa using mem)

theorem confined_bindNames :
    ∀ {bound : List String}, bound ⊆ names → ∀ values : List Value,
      (bindNames frame bound values).Confined frame names
  | [], _, values => by
    rw [bindNames]
    · exact confined_pure ()
    · rintro _ _ _ _ ⟨⟩
  | _ :: _, _, [] => confined_pure ()
  | name :: bound, subset, value :: values =>
    (confined_bindName (subset List.mem_cons_self) value).bind fun _ =>
      confined_bindNames (fun _ mem => subset (List.mem_cons_of_mem _ mem)) values

/-- What is confined to a frame opened for it changes no frame that was there before. -/
theorem extends_of_openFrame (names : List String) {outer : FrameId}
    {next : FrameId → Computation α} (confined : ∀ frame, (next frame).Confined frame names)
    {machine after : Machine} {ending : Ending α}
    (ends : (openFrame outer >>= next) machine = some (ending, after)) :
    machine.store.Extends after.store := by
  have opened := Store.Extends.openFrame machine.store outer
  rcases of_bind_eq ends with ⟨frame, start, opens, rest⟩ | ⟨_, opens⟩ <;> cases opens
  · exact opened.trans_changesOnly (confined _ _ _ _ rest) (Nat.le_refl _)
  · exact opened

end Computation

/-! ## Confined evaluators -/

namespace Evaluator

open MonkeyLang.Computation

variable {evaluator : Evaluator} {frame : FrameId} {names : List String}

/-- Every expression is confined to the frame it is evaluated in and to the names it binds. -/
def Confined (evaluator : Evaluator) : Prop :=
  ∀ frame expression, (evaluator frame expression).Confined frame expression.boundNames

theorem Confined.on (confined : evaluator.Confined) {expression : Expression}
    (within : expression.boundNames ⊆ names) : (evaluator frame expression).Confined frame names :=
  fun _ _ _ ends => (confined frame expression _ _ _ ends).mono within

/-! ### Statements and lists -/

mutual
/-- Running a statement is confined to its frame and to the names it binds. -/
theorem Confined.statement (confined : evaluator.Confined) :
    ∀ {statement : Statement}, statement.boundNames ⊆ names →
      (evaluator.statement frame statement).Confined frame names
  | .bind name value, within => by
    rw [Statement.boundNames, List.cons_subset] at within
    exact (confined.on within.2).bind fun value =>
      (confined_bindName within.1 value).bind fun _ => confined_pure _
  | .ret value, within => (confined.on within).bind fun value => confined_returning value
  | .evaluate expression, within => confined.on within
  | .group body, within => confined.statements within

/-- Running statements is confined to their frame and to the names they bind. -/
theorem Confined.statements (confined : evaluator.Confined) :
    ∀ {body : List Statement} {before : Value}, boundNamesOfStatements body ⊆ names →
      (evaluator.statements frame before body).Confined frame names
  | [], before, _ => confined_pure before
  | first :: rest, _, within => by
    rw [boundNamesOfStatements, List.append_subset] at within
    exact (confined.statement within.1).bind fun _ => confined.statements within.2
end

theorem Confined.block (confined : evaluator.Confined) {body : Block}
    (within : boundNamesOfStatements body ⊆ names) :
    (evaluator.block frame body).Confined frame names :=
  confined.statements within

theorem Confined.list (confined : evaluator.Confined) :
    ∀ {expressions : List Expression}, boundNamesOfList expressions ⊆ names →
      (evaluator.list frame expressions).Confined frame names
  | [], _ => confined_pure []
  | first :: rest, within => by
    rw [boundNamesOfList, List.append_subset] at within
    exact (confined.on within.1).bind fun _ =>
      (confined.list within.2).bind fun _ => confined_pure _

theorem Confined.entries (confined : evaluator.Confined) :
    ∀ {pairs : List (Expression × Expression)} {table : HashTable},
      boundNamesOfPairs pairs ⊆ names →
        (evaluator.entries frame table pairs).Confined frame names
  | [], table, _ => confined_pure table
  | (key, value) :: rest, _, within => by
    rw [boundNamesOfPairs, List.append_subset, List.append_subset] at within
    exact (confined.on within.1).bind fun source =>
      (confined_ofExcept source.hashKey).bind fun _ =>
        (confined.on within.2.1).bind fun _ => confined.entries within.2.2

theorem confined_name (name : String) :
    (Evaluator.name frame name).Confined frame names := by
  refine (confined_lookup? frame name).bind fun found => ?_
  cases found with
  | some value => exact confined_pure value
  | none =>
      dsimp only
      split
      · exact confined_pure _
      · exact confined_fail _

theorem confined_meansQuote (callee : Expression) :
    (meansQuote frame callee).Confined frame names := by
  unfold meansQuote
  split
  · exact (confined_lookup? frame "quote").bind fun _ => confined_pure _
  · exact confined_pure _

/-! ### Quotes -/

/-- What the unquoter does with an expression is confined if the walk is: the only code it runs is
the argument of a call to `unquote`, and the names bound there are bound in the expression. -/
theorem Confined.unquoter_expression (confined : evaluator.Confined) {expression : Expression}
    {walk : Computation Expression} (within : expression.boundNames ⊆ names)
    (walks : walk.Confined frame names) :
    ((evaluator.unquoter frame).expression expression walk).Confined frame names := by
  dsimp only [unquoter]
  split
  · next inner calls =>
    refine ((confined.on ?_).settle).bind fun value => confined_ofExcept value.toSyntax
    unfold Expression.argumentsOfCallTo? at calls
    split at calls
    · split at calls
      · cases calls
        simpa [Expression.boundNames, boundNamesOfList] using within
      · cases calls
    · cases calls
  · exact walks

mutual
theorem Confined.onStatement (confined : evaluator.Confined) :
    ∀ {statement : Statement}, statement.boundNames ⊆ names →
      ((evaluator.unquoter frame).onStatement statement).Confined frame names
  | .bind name value, within => by
    rw [Statement.boundNames, List.cons_subset] at within
    exact (confined.onExpression within.2).bind fun _ => confined_pure _
  | .ret value, within => (confined.onExpression within).bind fun _ => confined_pure _
  | .evaluate expression, within => (confined.onExpression within).bind fun _ => confined_pure _
  | .group body, within => (confined.onStatements within).bind fun _ => confined_pure _

theorem Confined.onStatements (confined : evaluator.Confined) :
    ∀ {body : List Statement}, boundNamesOfStatements body ⊆ names →
      ((evaluator.unquoter frame).onStatements body).Confined frame names
  | [], _ => confined_pure []
  | first :: rest, within => by
    rw [boundNamesOfStatements, List.append_subset] at within
    exact (confined.onStatement within.1).bind fun _ =>
      (confined.onStatements within.2).bind fun _ => confined_pure _

theorem Confined.onExpression (confined : evaluator.Confined) :
    ∀ {expression : Expression}, expression.boundNames ⊆ names →
      ((evaluator.unquoter frame).onExpression expression).Confined frame names
  | .identifier _, within | .integer _, within | .string _, within | .boolean _, within =>
    confined.unquoter_expression within (confined_pure _)
  | .unary operator operand, within => by
    have inner : operand.boundNames ⊆ names := within
    exact confined.unquoter_expression within <|
      (confined.onExpression inner).bind fun _ => confined_pure _
  | .binary operator left right, within => by
    refine confined.unquoter_expression within ?_
    rw [Expression.boundNames, List.append_subset] at within
    exact (confined.onExpression within.1).bind fun _ =>
      (confined.onExpression within.2).bind fun _ => confined_pure _
  | .conditional condition consequence none, within => by
    refine confined.unquoter_expression within ?_
    rw [Expression.boundNames, List.append_subset] at within
    exact (confined.onExpression within.1).bind fun _ =>
      (confined.onStatements within.2).bind fun _ => confined_pure _
  | .conditional condition consequence (some alternative), within => by
    refine confined.unquoter_expression within ?_
    rw [Expression.boundNames, List.append_subset, List.append_subset] at within
    exact (confined.onExpression within.1).bind fun _ =>
      (confined.onStatements within.2.1).bind fun _ =>
        (confined.onStatements within.2.2).bind fun _ => confined_pure _
  | .function parameters body, within =>
    confined.unquoter_expression within <|
      (confined.onStatements within).bind fun _ => confined_pure _
  | .call callee arguments, within => by
    refine confined.unquoter_expression within ?_
    rw [Expression.boundNames, List.append_subset] at within
    exact (confined.onExpression within.1).bind fun _ =>
      (confined.onExpressions within.2).bind fun _ => confined_pure _
  | .array elements, within =>
    confined.unquoter_expression within <|
      (confined.onExpressions within).bind fun _ => confined_pure _
  | .index collection position, within => by
    refine confined.unquoter_expression within ?_
    rw [Expression.boundNames, List.append_subset] at within
    exact (confined.onExpression within.1).bind fun _ =>
      (confined.onExpression within.2).bind fun _ => confined_pure _
  | .hash pairs, within =>
    confined.unquoter_expression within <|
      (confined.onPairs within).bind fun _ => confined_pure _
  | .macroLiteral parameters body, within =>
    confined.unquoter_expression within <|
      (confined.onStatements within).bind fun _ => confined_pure _

theorem Confined.onExpressions (confined : evaluator.Confined) :
    ∀ {list : List Expression}, boundNamesOfList list ⊆ names →
      ((evaluator.unquoter frame).onExpressions list).Confined frame names
  | [], _ => confined_pure []
  | first :: rest, within => by
    rw [boundNamesOfList, List.append_subset] at within
    exact (confined.onExpression within.1).bind fun _ =>
      (confined.onExpressions within.2).bind fun _ => confined_pure _

theorem Confined.onPairs (confined : evaluator.Confined) :
    ∀ {pairs : List (Expression × Expression)}, boundNamesOfPairs pairs ⊆ names →
      ((evaluator.unquoter frame).onPairs pairs).Confined frame names
  | [], _ => confined_pure []
  | (key, value) :: rest, within => by
    rw [boundNamesOfPairs, List.append_subset, List.append_subset] at within
    exact (confined.onExpression within.1).bind fun _ =>
      (confined.onExpression within.2.1).bind fun _ =>
        (confined.onPairs within.2.2).bind fun _ => confined_pure _
end

theorem Confined.quote (confined : evaluator.Confined) {arguments : List Expression}
    (within : boundNamesOfList arguments ⊆ names) :
    (evaluator.quote frame arguments).Confined frame names := by
  unfold Evaluator.quote
  split
  · next expression =>
    rw [boundNamesOfList, List.append_subset] at within
    exact (confined.onExpression within.1).bind fun _ => confined_pure _
  · exact confined_fail _

/-! ### Calls -/

/-- A call changes no frame that was there before. The frame of the body is a new one, and the
body changes no other. -/
theorem Confined.extends_of_apply (confined : evaluator.Confined) {callee : Value}
    {arguments : List Value} {machine after : Machine} {ending : Ending Value}
    (ends : evaluator.apply callee arguments machine = some (ending, after)) :
    machine.store.Extends after.store := by
  -- What is confined to a frame that does not exist yet changes none that does.
  have of_confined : ∀ {computation : Computation Value},
      computation.Confined machine.store.size [] →
        computation machine = some (ending, after) → machine.store.Extends after.store :=
    fun inside ends =>
      (Store.Extends.refl _).trans_changesOnly (inside _ _ _ ends) (Nat.le_refl _)
  unfold apply at ends
  split at ends
  · next closure =>
    split at ends
    · refine extends_of_openFrame (closure.parameters ++ boundNamesOfStatements closure.body)
        (fun frame => ?_) ends
      exact (confined_bindNames (List.subset_append_left _ _) arguments).bind fun _ =>
        (confined.block (List.subset_append_right _ _)).settle
    · exact of_confined (confined_fail _) ends
  · next builtin _ =>
    refine of_confined ?_ ends
    exact (confined_print _).bind fun _ => confined_ofExcept _
  · exact of_confined (confined_fail _) ends

theorem Confined.apply (confined : evaluator.Confined) (callee : Value) (arguments : List Value) :
    (evaluator.apply callee arguments).Confined frame names :=
  fun _ _ _ ends => (confined.extends_of_apply ends).changesOnly frame names

theorem Confined.call (confined : evaluator.Confined) {callee : Expression}
    {arguments : List Expression} (inCallee : callee.boundNames ⊆ names)
    (inArguments : boundNamesOfList arguments ⊆ names) :
    (evaluator.call frame callee arguments).Confined frame names := by
  refine (confined_meansQuote callee).bind fun quotes => ?_
  split
  · exact confined.quote inArguments
  · exact (confined.on inCallee).bind fun callee =>
      (confined.list inArguments).bind fun values => confined.apply callee values

/-! ### Evaluation -/

/-- A step is confined when the evaluations inside it are. -/
theorem Confined.step (confined : evaluator.Confined) : Confined evaluator.step := by
  intro frame expression
  cases expression with
  | identifier text => exact confined_name text
  | integer | string | boolean => exact confined_pure _
  | unary operator operand =>
      exact (confined.on (List.Subset.refl _)).bind fun _ => confined_ofExcept _
  | binary operator left right =>
      exact (confined.on (List.subset_append_left _ _)).bind fun _ =>
        (confined.on (List.subset_append_right _ _)).bind fun _ => confined_ofExcept _
  | conditional condition consequence alternative =>
      cases alternative with
      | none =>
          refine (confined.on (List.subset_append_left _ _)).bind fun value => ?_
          split
          · exact confined.block (List.subset_append_right _ _)
          · exact confined_pure _
      | some alternative =>
          refine (confined.on (List.subset_append_left _ _)).bind fun value => ?_
          have others : boundNamesOfStatements consequence ++ boundNamesOfStatements alternative ⊆
              (Expression.conditional condition consequence (some alternative)).boundNames :=
            List.subset_append_right _ _
          rw [List.append_subset] at others
          split
          · exact confined.block others.1
          · exact confined.block others.2
  | function parameters body =>
      exact (confined_newClosure parameters body frame).bind fun _ => confined_pure _
  | call callee arguments =>
      exact confined.call (List.subset_append_left _ _) (List.subset_append_right _ _)
  | array elements =>
      exact (confined.list (List.Subset.refl _)).bind fun _ => confined_pure _
  | index collection position =>
      exact (confined.on (List.subset_append_left _ _)).bind fun _ =>
        (confined.on (List.subset_append_right _ _)).bind fun _ => confined_ofExcept _
  | hash pairs =>
      exact (confined.entries (List.Subset.refl _)).bind fun _ => confined_pure _
  | macroLiteral parameters body =>
      exact (confined_newClosure parameters body frame).bind fun _ => confined_pure _

end Evaluator

/-- Evaluation is confined, however deeply it nests. -/
theorem confined_evaluate (depth : Nat) : (evaluate depth).Confined := by
  induction depth with
  | zero => exact fun _ _ => Computation.confined_giveUp
  | succ depth ih => exact ih.step

/-- **Evaluation changes the frame it runs in and no older one.** A call leaves every frame that
was there as it was. An expression or a block leaves every frame as it was except the one it is
evaluated in, and that one keeps its parent and the bindings of all names that no binding statement
in the evaluated syntax names. This holds however the evaluation ends. -/
theorem frames_kept (depth : Nat) :
    (∀ callee arguments machine ending after,
      (evaluate depth).apply callee arguments machine = some (ending, after) →
        machine.store.Extends after.store) ∧
    (∀ frame expression machine ending after,
      evaluate depth frame expression machine = some (ending, after) →
        machine.store.ChangesOnly frame expression.boundNames after.store) ∧
    (∀ frame body machine ending after,
      (evaluate depth).block frame body machine = some (ending, after) →
        machine.store.ChangesOnly frame (boundNamesOfStatements body) after.store) := by
  have confined := confined_evaluate depth
  refine ⟨?_, ?_, ?_⟩
  · intro callee arguments machine ending after ends
    exact confined.extends_of_apply ends
  · intro frame expression
    exact confined frame expression
  · intro frame body
    exact confined.block (List.Subset.refl _)

/-- `let a = 2; return 3;`, on its own and as the body of a function, where `a` was 1. -/
theorem frames_kept_shadowed :
    let body : Block := [.bind "a" (.integer 2), .ret (.integer 3)]
    let store := (Store.empty.openFrame none).bind 0 "a" (.integer 1)
    (∃ after, (evaluate 2).apply (.function ⟨[], body, 0, 0⟩) [] ⟨store, 1, ""⟩ =
        some (.value (.integer 3), after) ∧ store.Extends after.store) ∧
    (∃ after, evaluate 3 0 (.call (.function [] body) []) ⟨store, 0, ""⟩ =
        some (.value (.integer 3), after) ∧ store.ChangesOnly 0 ["a"] after.store) ∧
    (∃ after, (evaluate 2).block 0 body ⟨store, 0, ""⟩ = some (.returned (.integer 3), after) ∧
        store.ChangesOnly 0 ["a"] after.store) := by
  intro body store
  obtain ⟨called, calls⟩ : ∃ after, (evaluate 2).apply (.function ⟨[], body, 0, 0⟩) []
      ⟨store, 1, ""⟩ = some (.value (.integer 3), after) := ⟨_, rfl⟩
  obtain ⟨evaluated, evaluates⟩ : ∃ after, evaluate 3 0 (.call (.function [] body) [])
      ⟨store, 0, ""⟩ = some (.value (.integer 3), after) := ⟨_, rfl⟩
  obtain ⟨ran, runs⟩ : ∃ after, (evaluate 2).block 0 body ⟨store, 0, ""⟩ =
      some (.returned (.integer 3), after) := ⟨_, rfl⟩
  exact ⟨⟨called, calls, (frames_kept 2).1 _ _ _ _ _ calls⟩,
    ⟨evaluated, evaluates, (frames_kept 3).2.1 _ _ _ _ _ evaluates⟩,
    ⟨ran, runs, (frames_kept 2).2.2 _ _ _ _ _ runs⟩⟩

end MonkeyLang
