import MonkeyLang.Proofs.Evaluation.Agreement

/-!
# Names that a program does not mention

A name that neither a program nor any function within its reach mentions does not matter to it. If
the name is bound to any value in any frame before the program runs, the program comes to the same
answer, prints the same text and makes the same bindings of all other names
(`runProgram_unmentioned`).

The word `quote` is the exception: whether a call of it quotes depends on whether the name is bound,
which evaluation finds out by looking it up.
-/

set_option autoImplicit false

namespace MonkeyLang

/-! ## The names in what is unquoted -/

/-- What stands in one of two lists of arguments mentions only names of the one or the other. -/
theorem names_subset_of_append {first rest : List Expression} {names names' : List String}
    (left : ∀ {inner : Expression}, inner ∈ first → inner.names ⊆ names)
    (right : ∀ {inner : Expression}, inner ∈ rest → inner.names ⊆ names') {inner : Expression}
    (mem : inner ∈ first ++ rest) : inner.names ⊆ names ++ names' := by
  rcases List.mem_append.mp mem with mem | mem
  · exact List.Subset.trans (left mem) (List.subset_append_left _ _)
  · exact List.Subset.trans (right mem) (List.subset_append_right _ _)

mutual
theorem Statement.names_of_unquotes : ∀ (statement : Statement) {inner : Expression},
    inner ∈ statement.unquotes → inner.names ⊆ statement.names
  | .bind _ value, _, mem => List.subset_cons_of_subset _ (value.names_of_unquotes mem)
  | .ret value, _, mem => value.names_of_unquotes mem
  | .evaluate expression, _, mem => expression.names_of_unquotes mem
  | .group body, _, mem => names_of_unquotesIn body mem

theorem names_of_unquotesIn : ∀ (body : List Statement) {inner : Expression},
    inner ∈ unquotesIn body → inner.names ⊆ namesIn body
  | [], _, mem => absurd mem List.not_mem_nil
  | first :: rest, _, mem =>
    names_subset_of_append first.names_of_unquotes (names_of_unquotesIn rest) mem

/-- **What is unquoted in an expression mentions only names of the expression.** -/
theorem Expression.names_of_unquotes : ∀ (expression : Expression) {inner : Expression},
    inner ∈ expression.unquotes → inner.names ⊆ expression.names
  | .identifier _, _, mem | .integer _, _, mem | .string _, _, mem | .boolean _, _, mem =>
    absurd mem List.not_mem_nil
  | .unary _ operand, _, mem => operand.names_of_unquotes mem
  | .binary _ left right, _, mem =>
    names_subset_of_append left.names_of_unquotes right.names_of_unquotes mem
  | .conditional condition consequence none, _, mem =>
    names_subset_of_append condition.names_of_unquotes (names_of_unquotesIn consequence) mem
  | .conditional condition consequence (some alternative), _, mem =>
    names_subset_of_append condition.names_of_unquotes
      (names_subset_of_append (names_of_unquotesIn consequence) (names_of_unquotesIn alternative))
      mem
  | .function _ body, _, mem =>
    List.Subset.trans (names_of_unquotesIn body mem) (List.subset_append_right _ _)
  | .call callee arguments, inner, mem => by
    rw [Expression.unquotes] at mem
    split at mem
    · next quoted found =>
      cases List.mem_singleton.mp mem
      rw [Part.unquoted?_eq_some_iff.mp found]
      simp [Expression.unquoteCall, Expression.names, namesInList]
    · exact names_subset_of_append callee.names_of_unquotes (names_of_unquotesInList arguments) mem
  | .array elements, _, mem => names_of_unquotesInList elements mem
  | .index collection position, _, mem =>
    names_subset_of_append collection.names_of_unquotes position.names_of_unquotes mem
  | .hash pairs, _, mem => names_of_unquotesInPairs pairs mem
  | .macroLiteral _ body, _, mem =>
    List.Subset.trans (names_of_unquotesIn body mem) (List.subset_append_right _ _)

theorem names_of_unquotesInList : ∀ (list : List Expression) {inner : Expression},
    inner ∈ unquotesInList list → inner.names ⊆ namesInList list
  | [], _, mem => absurd mem List.not_mem_nil
  | first :: rest, _, mem =>
    names_subset_of_append first.names_of_unquotes (names_of_unquotesInList rest) mem

theorem names_of_unquotesInPairs : ∀ (pairs : List (Expression × Expression)) {inner : Expression},
    inner ∈ unquotesInPairs pairs → inner.names ⊆ namesInPairs pairs
  | [], _, mem => absurd mem List.not_mem_nil
  | (key, value) :: rest, _, mem =>
    names_subset_of_append key.names_of_unquotes
      (names_subset_of_append value.names_of_unquotes (names_of_unquotesInPairs rest)) mem
end

/-! ## Evaluators -/

variable {name : String} {inside : FrameId → Prop}

theorem Value.avoids_of_not_holds {value : Value} (none : ∀ closure, ¬ value.Holds closure) :
    value.Avoids name inside :=
  fun closure holds => absurd holds (none closure)

namespace Evaluator

open MonkeyLang.Computation

/-- In a frame of the set, an expression that does not mention the name is evaluated alike. -/
def Ignores (evaluator : Evaluator) (name : String) (inside : FrameId → Prop) : Prop :=
  ∀ frame expression, inside frame → name ∉ expression.names →
    (evaluator frame expression).Ignores name inside (Value.Avoids name inside)

variable {evaluator : Evaluator} {frame : FrameId}

theorem Ignores.on (ignores : evaluator.Ignores name inside) (mem : inside frame)
    {expression : Expression} (unnamed : name ∉ expression.names) :
    (evaluator frame expression).Ignores name inside (Value.Avoids name inside) :=
  ignores frame expression mem unnamed

/-! ### Statements and lists -/

mutual
theorem Ignores.statement (ignores : evaluator.Ignores name inside) (mem : inside frame) :
    ∀ {statement : Statement}, name ∉ statement.names →
      (evaluator.statement frame statement).Ignores name inside (Value.Avoids name inside)
  | .bind bound value, unnamed => by
    have inValue : name ∉ value.names := fun named => unnamed (List.mem_cons_of_mem _ named)
    refine (ignores.on mem inValue).bind fun value avoids => ?_
    refine (ignores_bindName frame bound avoids).bind fun _ _ => ?_
    exact ignores_pure (Value.avoids_of_not_holds nofun)
  | .ret value, unnamed => by
    have inValue : name ∉ value.names := unnamed
    exact (ignores.on mem inValue).bind fun _ avoids => ignores_returning avoids
  | .evaluate expression, unnamed => ignores.on mem unnamed
  | .group body, unnamed => by
    have inBody : name ∉ namesIn body := unnamed
    exact ignores.statements mem inBody (Value.avoids_of_not_holds nofun)

theorem Ignores.statements (ignores : evaluator.Ignores name inside) (mem : inside frame) :
    ∀ {body : List Statement}, name ∉ namesIn body →
      ∀ {before : Value}, before.Avoids name inside →
        (evaluator.statements frame before body).Ignores name inside (Value.Avoids name inside)
  | [], _, _, avoids => ignores_pure avoids
  | first :: rest, unnamed, _, _ => by
    rw [namesIn, List.mem_append, not_or] at unnamed
    refine (ignores.statement mem unnamed.1).bind fun value avoids => ?_
    exact ignores.statements mem unnamed.2 avoids
end

theorem Ignores.block (ignores : evaluator.Ignores name inside) (mem : inside frame)
    {body : Block} (unnamed : name ∉ namesIn body) :
    (evaluator.block frame body).Ignores name inside (Value.Avoids name inside) :=
  ignores.statements mem unnamed (Value.avoids_of_not_holds nofun)

theorem Ignores.list (ignores : evaluator.Ignores name inside) (mem : inside frame) :
    ∀ {list : List Expression}, name ∉ namesInList list →
      (evaluator.list frame list).Ignores name inside
        fun values => ∀ value ∈ values, value.Avoids name inside
  | [], _ => ignores_pure fun _ none => absurd none List.not_mem_nil
  | first :: rest, unnamed => by
    rw [namesInList, List.mem_append, not_or] at unnamed
    refine (ignores.on mem unnamed.1).bind fun value avoids => ?_
    refine (ignores.list mem unnamed.2).bind fun values avoid => ?_
    exact ignores_pure (List.forall_mem_cons.mpr ⟨avoids, avoid⟩)

theorem Ignores.entries (ignores : evaluator.Ignores name inside) (mem : inside frame) :
    ∀ {pairs : List (Expression × Expression)}, name ∉ namesInPairs pairs →
      ∀ {table : HashTable}, (Value.hash table).Avoids name inside →
        (evaluator.entries frame table pairs).Ignores name inside
          fun table => (Value.hash table).Avoids name inside
  | [], _, _, avoids => ignores_pure avoids
  | (key, value) :: rest, unnamed, table, avoids => by
    rw [namesInPairs, List.mem_append, List.mem_append, not_or, not_or] at unnamed
    refine (ignores.on mem unnamed.1).bind fun source avoidsSource => ?_
    refine (ignores_ofExcept_any _).bind fun key _ => ?_
    refine (ignores.on mem unnamed.2.1).bind fun stored avoidsStored => ?_
    refine ignores.entries mem unnamed.2.2 fun closure holds => ?_
    rcases Value.holds_of_set holds with holds | holds | holds
    · exact avoidsSource closure holds
    · exact avoidsStored closure holds
    · exact avoids closure holds

/-! ### Names -/

theorem ignores_name (mem : inside frame) {text : String} (distinct : text ≠ name) :
    (Evaluator.name frame text).Ignores name inside (Value.Avoids name inside) := by
  refine (ignores_lookup? mem distinct).bind fun found avoid => ?_
  cases found with
  | some value => exact ignores_pure (avoid value rfl)
  | none =>
      dsimp only
      split
      · exact ignores_pure (Value.avoids_of_not_holds nofun)
      · exact ignores_fail _

theorem ignores_meansQuote (mem : inside frame) (notQuote : name ≠ "quote") (callee : Expression) :
    (meansQuote frame callee).Ignores name inside fun _ => True := by
  unfold meansQuote
  split
  · exact (ignores_lookup? mem (Ne.symm notQuote)).bind fun _ _ => ignores_pure trivial
  · exact ignores_pure trivial

/-! ### Quotes -/

theorem Ignores.unquoteAll (ignores : evaluator.Ignores name inside) (mem : inside frame) :
    ∀ {expressions : List Expression}, (∀ inner ∈ expressions, name ∉ inner.names) →
      (evaluator.unquoteAll frame expressions).Ignores name inside fun _ => True
  | [], _ => ignores_pure trivial
  | first :: rest, unnamed => by
    rw [List.forall_mem_cons] at unnamed
    refine (ignores.on mem unnamed.1).settle.bind fun value _ => ?_
    refine (ignores_ofExcept_any _).bind fun node _ => ?_
    exact (ignores.unquoteAll mem unnamed.2).bind fun _ _ => ignores_pure trivial

/-- A quote evaluates only what is unquoted in it, and it holds no function. -/
theorem Ignores.quote (ignores : evaluator.Ignores name inside) (mem : inside frame)
    {arguments : List Expression} (unnamed : name ∉ namesInList arguments) :
    (evaluator.quote frame arguments).Ignores name inside (Value.Avoids name inside) := by
  rcases arguments with _ | ⟨quoted, _ | _⟩
  case cons.nil =>
    rw [namesInList, List.mem_append, not_or] at unnamed
    rw [quote_eq_substitute]
    have inner : ∀ inner ∈ quoted.unquotes, name ∉ inner.names :=
      fun inner unquoted named => unnamed.1 (quoted.names_of_unquotes unquoted named)
    exact (ignores.unquoteAll mem inner).bind fun _ _ =>
      ignores_pure (Value.avoids_of_not_holds nofun)
  all_goals exact ignores_fail _

/-! ### Calls -/

theorem Ignores.apply (ignores : evaluator.Ignores name inside) {callee : Value}
    (avoids : callee.Avoids name inside) {arguments : List Value}
    (avoid : ∀ argument ∈ arguments, argument.Avoids name inside) :
    (evaluator.apply callee arguments).Ignores name inside (Value.Avoids name inside) := by
  cases callee with
  | function closure =>
      obtain ⟨unnamed, mem⟩ := avoids closure (.function closure)
      rw [Closure.names, List.mem_append, not_or] at unnamed
      rw [Evaluator.apply]
      split
      · refine (ignores_openFrame mem).bind fun opened mem => ?_
        refine (ignores_bindNames opened _ avoid).bind fun _ _ => ?_
        exact (ignores.block mem unnamed.2).settle
      · exact ignores_fail _
  | builtin builtin =>
      refine (ignores_print _).bind fun _ _ => ?_
      refine ignores_ofExcept fun value applies closure holds => ?_
      obtain ⟨argument, given, holds⟩ := Builtin.holds_of_apply applies holds
      exact avoid argument given closure holds
  | _ => exact ignores_fail _

theorem Ignores.call (ignores : evaluator.Ignores name inside) (notQuote : name ≠ "quote")
    (mem : inside frame) {callee : Expression} {arguments : List Expression}
    (inCallee : name ∉ callee.names) (inArguments : name ∉ namesInList arguments) :
    (evaluator.call frame callee arguments).Ignores name inside (Value.Avoids name inside) := by
  refine (ignores_meansQuote mem notQuote callee).bind fun quotes _ => ?_
  split
  · exact ignores.quote mem inArguments
  · refine (ignores.on mem inCallee).bind fun callee avoids => ?_
    exact (ignores.list mem inArguments).bind fun arguments avoid => ignores.apply avoids avoid

/-! ### Steps -/

/-- A closure that is made of syntax without the name in a frame of the set is a function that
avoids the name. -/
theorem avoids_function {closure : Closure} (unnamed : name ∉ closure.names)
    (mem : inside closure.frame) : (Value.function closure).Avoids name inside := by
  intro held holds
  cases holds
  exact ⟨unnamed, mem⟩

/-- A step ignores what the evaluations inside it ignore. -/
theorem Ignores.step (ignores : evaluator.Ignores name inside) (notQuote : name ≠ "quote") :
    Ignores evaluator.step name inside := by
  intro frame expression mem unnamed
  cases expression with
  | identifier text =>
      exact ignores_name mem fun same => unnamed (List.mem_singleton.mpr same.symm)
  | integer | string | boolean => exact ignores_pure (Value.avoids_of_not_holds nofun)
  | unary operator operand =>
      have inOperand : name ∉ operand.names := unnamed
      refine (ignores.on mem inOperand).bind fun operand _ => ?_
      refine ignores_ofExcept fun value applies => ?_
      exact Value.avoids_of_not_holds (Value.not_holds_of_applyUnary applies)
  | binary operator left right =>
      rw [Expression.names, List.mem_append, not_or] at unnamed
      refine (ignores.on mem unnamed.1).bind fun left _ => ?_
      refine (ignores.on mem unnamed.2).bind fun right _ => ?_
      refine ignores_ofExcept fun value applies => ?_
      exact Value.avoids_of_not_holds (Value.not_holds_of_applyBinary applies)
  | conditional condition consequence alternative =>
      cases alternative with
      | none =>
          rw [Expression.names, List.mem_append, not_or] at unnamed
          refine (ignores.on mem unnamed.1).bind fun value _ => ?_
          split
          · exact ignores.block mem unnamed.2
          · exact ignores_pure (Value.avoids_of_not_holds nofun)
      | some alternative =>
          rw [Expression.names, List.mem_append, List.mem_append, not_or, not_or] at unnamed
          refine (ignores.on mem unnamed.1).bind fun value _ => ?_
          split
          · exact ignores.block mem unnamed.2.1
          · exact ignores.block mem unnamed.2.2
  | function parameters body =>
      refine (ignores_newClosure parameters body frame).bind ?_
      rintro ⟨_, _, _, stamp⟩ ⟨rfl, rfl, rfl⟩
      exact ignores_pure (avoids_function unnamed mem)
  | call callee arguments =>
      rw [Expression.names, List.mem_append, not_or] at unnamed
      exact ignores.call notQuote mem unnamed.1 unnamed.2
  | array elements =>
      have inElements : name ∉ namesInList elements := unnamed
      refine (ignores.list mem inElements).bind fun values avoid => ?_
      refine ignores_pure fun closure holds => ?_
      cases holds with
      | element given holds => exact avoid _ given closure holds
  | index collection position =>
      rw [Expression.names, List.mem_append, not_or] at unnamed
      refine (ignores.on mem unnamed.1).bind fun collection avoids => ?_
      refine (ignores.on mem unnamed.2).bind fun position _ => ?_
      refine ignores_ofExcept fun value applies closure holds => ?_
      exact avoids closure (Value.holds_of_applyIndex applies holds)
  | hash pairs =>
      have inPairs : name ∉ namesInPairs pairs := unnamed
      have empty : (Value.hash []).Avoids name inside := by
        refine Value.avoids_of_not_holds fun closure holds => ?_
        cases holds with
        | key mem | entry mem => exact List.not_mem_nil mem
      exact (ignores.entries mem inPairs empty).bind fun table avoids => ignores_pure avoids
  | macroLiteral parameters body =>
      exact (ignores_newClosure parameters body frame).bind fun closure _ =>
        ignores_pure (Value.avoids_of_not_holds nofun)

end Evaluator

/-- **However deeply evaluation nests, it ignores a name that it does not come across.** -/
theorem ignores_evaluate (inside : FrameId → Prop) (notQuote : name ≠ "quote") (depth : Nat) :
    (evaluate depth).Ignores name inside := by
  induction depth with
  | zero => exact fun _ _ _ _ => Computation.ignores_giveUp
  | succ depth ih => exact ih.step notQuote

/-! ## Programs -/

/-- No function that the frame leads to mentions the name. -/
def Store.Unmentioned (store : Store) (name : String) (frame : FrameId) : Prop :=
  ∀ closure, store.Reaches frame (.function closure) → name ∉ closure.names

section

variable {machine : Machine}

/-- The frames that lead to no function with the name, and those that are yet to be opened, are
closed under what they hold. -/
theorem Machine.closed_unmentioned (machine : Machine) (name : String) :
    machine.Closed name fun id =>
      machine.store.size ≤ id ∨ machine.store.Unmentioned name id where
  opened _ new := .inl new
  outer id mem parent around := by
    obtain ⟨frame, present, outer⟩ := Option.bind_eq_some_iff.mp around
    rcases mem with new | unmentioned
    · rw [Store.frame?_eq_none new] at present
      cases present
    · exact .inr fun closure reaches => unmentioned closure (.outer present outer reaches)
  bound id mem other _ value found := by
    obtain ⟨frame, present, found⟩ := Option.bind_eq_some_iff.mp found
    rcases mem with new | unmentioned
    · rw [Store.frame?_eq_none new] at present
      cases present
    · intro closure holds
      refine ⟨unmentioned closure (.bound present found (holds.leads (.self _))), .inr ?_⟩
      intro held reaches
      exact unmentioned held (.bound present found (holds.leads (.function reaches)))

/-- A machine agrees with itself but for a name that is bound in one of its frames. -/
theorem Machine.agreeBut_bind (machine : Machine) (name : String) (target : FrameId)
    (value : Value) :
    machine.AgreeBut name { machine with store := machine.store.bind target name value } where
  size := Store.size_bind _ _ _ _
  outer? id := Store.outer?_bind _ _ _ _ id
  bound? id other distinct := by
    rcases Nat.lt_or_ge target machine.store.size with old | missing
    · rw [Store.bound?_bind _ old, if_neg fun both => distinct both.2]
    · exact Store.bound?_bind_of_missing _ missing name value id other
  stamp := rfl
  printed := rfl

/-- **Evaluation depends only on the names it comes across.** Take a name other than `quote` that
the program does not mention, and neither does any function that its frame leads to. If the name is
bound to any value in any frame, the program runs as it does without that: either both runs nest too
deeply, or they come to the same answer and leave the same text printed and the same frames around
each other, with every other name bound to the same values. -/
theorem runProgram_unmentioned {name : String} (notQuote : name ≠ "quote") {program : Program}
    (unnamed : name ∉ namesIn program) {frame : FrameId}
    (unmentioned : machine.store.Unmentioned name frame) (depth : Nat) (target : FrameId)
    (value : Value) :
    Option.Rel (fun reached reached' => reached'.1 = reached.1 ∧ reached.2.AgreeBut name reached'.2)
      (runProgram depth frame program machine)
      (runProgram depth frame program
        { machine with store := machine.store.bind target name value }) := by
  have ignores := (ignores_evaluate (fun id => machine.store.size ≤ id ∨
    machine.store.Unmentioned name id) notQuote depth).block (.inr unmentioned) unnamed
  have reached := ignores machine _
    ⟨machine.agreeBut_bind name target value, machine.closed_unmentioned name⟩
  rw [runProgram, runProgram]
  generalize (evaluate depth).block frame program machine = ended at reached ⊢
  generalize (evaluate depth).block frame program _ = ended' at reached ⊢
  cases reached with
  | none => exact .none
  | some steps =>
      cases steps with
      | value _ machines | returned _ machines | failed machines =>
          exact .some ⟨rfl, machines.agree⟩

end

/-- `fn(n) { n + 1 }`, made in the first frame. -/
def successor : Closure :=
  ⟨["n"], [.evaluate (.binary .add (.identifier "n") (.integer 1))], 0, 0⟩

/-- A frame inside another one; the inner one binds `next` to the function. -/
def framesWithNext : Array Frame :=
  #[⟨[], none⟩, ⟨[("next", .function successor)], some 0⟩]

theorem framesWithNext_older (child : FrameId) (frame : Frame) (parent : FrameId)
    (present : framesWithNext[child]? = some frame) (around : frame.parent = some parent) :
    parent < child := by
  rcases child with _ | _ | child <;> cases present <;> cases around
  decide

/-- `let two = next(1); two`. -/
def bindingTwo : Program :=
  [.bind "two" (.call (.identifier "next") [.integer 1]), .evaluate (.identifier "two")]

/-- If the builtin `len` is hidden in the outer frame, where the function was made, `next(1)`
still comes to 2. -/
theorem runProgram_unmentioned_builtin :
    ∃ after after',
      runProgram 3 1 bindingTwo ⟨⟨framesWithNext, framesWithNext_older⟩, 1, ""⟩ =
        some (some (.integer 2), after) ∧
      runProgram 3 1 bindingTwo
        ⟨(Store.mk framesWithNext framesWithNext_older).bind 0 "len" .null, 1, ""⟩ =
          some (some (.integer 2), after') ∧
      after.AgreeBut "len" after' := by
  have nothing : ∀ part, ¬ (Store.mk framesWithNext framesWithNext_older).Reaches 0 part := by
    intro part reaches
    cases reaches with
    | bound present found =>
        cases present
        cases found
    | outer present around =>
        cases present
        cases around
  have unmentioned : (Store.mk framesWithNext framesWithNext_older).Unmentioned "len" 1 := by
    intro closure reaches
    cases reaches with
    | bound present found leads =>
        cases present
        cases List.mem_singleton.mp (Table.mem_of_find? found)
        cases leads with
        | self => decide
        | function reaches => exact absurd reaches (nothing _)
    | outer present around reaches =>
        cases present
        cases around
        exact absurd reaches (nothing _)
  have shows : (runProgram 3 1 bindingTwo
      ⟨⟨framesWithNext, framesWithNext_older⟩, 1, ""⟩).map Prod.fst = some (some (.integer 2)) := by
    cbv
  obtain ⟨⟨result, after⟩, runs, same⟩ := Option.map_eq_some_iff.mp shows
  cases same
  have both := @runProgram_unmentioned ⟨⟨framesWithNext, framesWithNext_older⟩, 1, ""⟩ "len"
    (by decide) bindingTwo (by decide) 1 unmentioned 3 0 .null
  rw [runs] at both
  cases hidden : runProgram 3 1 bindingTwo
      ⟨(Store.mk framesWithNext framesWithNext_older).bind 0 "len" .null, 1, ""⟩ with
  | none =>
      rw [hidden] at both
      cases both
  | some reached' =>
      rw [hidden] at both
      cases both with
      | some agree =>
          obtain ⟨result', after'⟩ := reached'
          obtain ⟨rfl, agree⟩ := agree
          exact ⟨after, after', runs, rfl, agree⟩

end MonkeyLang
