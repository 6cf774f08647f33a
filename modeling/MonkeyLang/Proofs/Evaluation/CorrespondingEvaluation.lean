import MonkeyLang.Evaluation
import MonkeyLang.Proofs.Evaluation.CorrespondingRuns

/-!
# Evaluation does not tell corresponding machines apart

An expression of the class that a correspondence allows runs alike in
corresponding frames of corresponding machines (`respects_evaluate`), however
deeply its evaluation nests. The evaluators of all depths have this property
because a step passes it on from the evaluator of the parts to the evaluator of
the whole. Quotes build syntax, so the traversals that replace the calls to
`unquote` have to stay inside the class as well; they are compared node by node.
-/

set_option autoImplicit false

namespace MonkeyLang

open Correspondence

variable {corr : Correspondence}

/-! ## Traversals -/

namespace Correspondence

section Same

variable {α β : Type} {inside : α → Prop} {related : β → β → Prop}

theorem runs_same {tree : α} (holds : inside tree) :
    corr.Runs (Same inside) (pure tree) (pure tree) :=
  runs_pure ⟨rfl, holds⟩

theorem Runs.bind_same {first first' : Computation α} {next next' : α → Computation β}
    (runs : corr.Runs (Same inside) first first')
    (others : ∀ {tree}, inside tree → corr.Runs related (next tree) (next' tree)) :
    corr.Runs related (first >>= next) (first' >>= next') := by
  refine runs.bind ?_
  rintro tree _ ⟨rfl, holds⟩
  exact others holds

end Same

/-- Computations that build the same tree on corresponding machines. -/
def building (corr : Correspondence) : Relator Computation Computation where
  Builds inside first first' := corr.Runs (Same inside) first first'
  builds_pure := runs_same
  builds_bind runs others := runs.bind_same fun {tree} holds => others tree holds

end Correspondence

/-! ## Evaluators -/

namespace Evaluator

/-- Every expression of the class runs alike in corresponding frames. -/
def Respects (evaluator : Evaluator) (corr : Correspondence) : Prop :=
  ∀ frame frame' expression, corr.Frames frame frame' → corr.trees.expression expression →
    corr.Runs corr.Values (evaluator frame expression) (evaluator frame' expression)

section

variable {evaluator : Evaluator} {frame frame' : FrameId}

theorem Respects.on (respects : evaluator.Respects corr) (frames : corr.Frames frame frame')
    {expression : Expression} (inside : corr.trees.expression expression) :
    corr.Runs corr.Values (evaluator frame expression) (evaluator frame' expression) :=
  respects frame frame' expression frames inside

/-! ### Statements and lists -/

mutual
theorem Respects.statement (respects : evaluator.Respects corr)
    (frames : corr.Frames frame frame') :
    ∀ {statement : Statement}, corr.trees.statement statement →
      corr.Runs corr.Values (evaluator.statement frame statement)
        (evaluator.statement frame' statement)
  | .bind name _, inside =>
    (respects.on frames ((corr.trees.bind_iff _ _).mp inside).2).bind fun values =>
      (runs_bindName frames name values).bind fun _ => runs_pure .null
  | .ret _, inside =>
    (respects.on frames ((corr.trees.ret_iff _).mp inside)).bind fun values =>
      runs_returning values
  | .evaluate _, inside => respects.on frames ((corr.trees.evaluate_iff _).mp inside)
  | .group _, inside => respects.statements frames ((corr.trees.group_iff _).mp inside).2 .null

theorem Respects.statements (respects : evaluator.Respects corr)
    (frames : corr.Frames frame frame') :
    ∀ {body : List Statement}, corr.trees.statements body →
      ∀ {before before' : Value}, corr.Values before before' →
        corr.Runs corr.Values (evaluator.statements frame before body)
          (evaluator.statements frame' before' body)
  | [], _, _, _, before => runs_pure before
  | first :: rest, inside, _, _, _ => by
    have parts := (corr.trees.statements_cons first rest).mp inside
    exact (respects.statement frames parts.1).bind fun values =>
      respects.statements frames parts.2 values
end

theorem Respects.block (respects : evaluator.Respects corr) (frames : corr.Frames frame frame')
    {body : Block} (inside : corr.trees.statements body) :
    corr.Runs corr.Values (evaluator.block frame body) (evaluator.block frame' body) :=
  respects.statements frames inside .null

theorem Respects.list (respects : evaluator.Respects corr) (frames : corr.Frames frame frame') :
    ∀ {list : List Expression}, corr.trees.expressions list →
      corr.Runs corr.Lists (evaluator.list frame list) (evaluator.list frame' list)
  | [], _ => runs_pure .nil
  | first :: rest, inside => by
    have parts := (corr.trees.expressions_cons first rest).mp inside
    exact (respects.on frames parts.1).bind fun head =>
      (respects.list frames parts.2).bind fun tail => runs_pure (.cons head tail)

theorem Respects.entries (respects : evaluator.Respects corr)
    (frames : corr.Frames frame frame') :
    ∀ {pairs : List (Expression × Expression)}, corr.trees.pairs pairs →
      ∀ {table table' : HashTable}, corr.Entries table table' →
        corr.Runs corr.Entries (evaluator.entries frame table pairs)
          (evaluator.entries frame' table' pairs)
  | [], _, _, _, entries => runs_pure entries
  | (key, value) :: rest, inside, _, _, entries => by
    have parts := (corr.trees.pairs_cons key value rest).mp inside
    refine (respects.on frames parts.1.1).bind fun sources => ?_
    refine (runs_ofExcept (Results.of_eq sources.hashKey_eq)).bind ?_
    rintro key _ rfl
    refine (respects.on frames parts.1.2).bind fun values => ?_
    exact respects.entries frames parts.2 (entries.set _ sources values)

/-! ### Names -/

theorem runs_name (frames : corr.Frames frame frame') {text : String}
    (inside : corr.trees.name text) :
    corr.Runs corr.Values (name frame text) (name frame' text) := by
  refine (runs_lookup? frames (corr.visible_of_name inside)).bind fun found => ?_
  cases found with
  | some values => exact runs_pure values
  | none =>
      dsimp only
      split
      · exact runs_pure (.builtin _)
      · exact runs_fail _

theorem runs_meansQuote (frames : corr.Frames frame frame') (callee : Expression) :
    corr.Runs Eq (meansQuote frame callee) (meansQuote frame' callee) := by
  by_cases quotes : callee = .identifier "quote"
  · subst quotes
    refine (runs_lookup? frames corr.visible_quote).bind fun found => runs_pure ?_
    cases found <;> rfl
  · have other : ∀ frame, meansQuote frame callee = pure false := by
      intro frame
      unfold meansQuote
      split
      · exact absurd rfl quotes
      · rfl
    rw [other, other]
    exact runs_pure rfl

/-! ### Quotes -/

/-- The calls to `unquote` are replaced alike. -/
theorem Respects.unquoter (respects : evaluator.Respects corr)
    (frames : corr.Frames frame frame') :
    corr.building.Handles corr.trees (evaluator.unquoter frame) (evaluator.unquoter frame') where
  statement _ walks := walks
  block _ walks := walks
  expression {node walk walk'} inside walks := by
    dsimp only [Evaluator.unquoter]
    generalize calls : node.argumentsOfCallTo? "unquote" = found
    rcases found with _ | ⟨_ | ⟨inner, _ | _⟩⟩
    case some.cons.nil =>
      -- The node is the call, so its argument is in the class.
      unfold Expression.argumentsOfCallTo? at calls
      split at calls
      · split at calls
        · cases calls
          have arguments := ((corr.trees.call_iff _ _).mp inside).2
          have inner := ((corr.trees.expressions_cons _ _).mp arguments).1
          exact (respects.on frames inner).settle.bind fun values =>
            runs_ofExcept (results_toSyntax values)
        · cases calls
      · cases calls
    all_goals exact walks

theorem Respects.quote (respects : evaluator.Respects corr) (frames : corr.Frames frame frame')
    {arguments : List Expression} (inside : corr.trees.expressions arguments) :
    corr.Runs corr.Values (evaluator.quote frame arguments)
      (evaluator.quote frame' arguments) := by
  rcases arguments with _ | ⟨expression, _ | _⟩
  case cons.nil =>
    have argument := ((corr.trees.expressions_cons _ _).mp inside).1
    exact ((respects.unquoter frames).onExpression argument).bind_same fun inside =>
      runs_pure (.quote inside)
  all_goals exact runs_fail _

/-! ### Calls -/

/-- Called values that correspond run alike on corresponding arguments. -/
theorem Respects.apply (respects : evaluator.Respects corr) {callee callee' : Value}
    {arguments arguments' : List Value} (values : corr.Values callee callee')
    (lists : corr.Lists arguments arguments') :
    corr.Runs corr.Values (evaluator.apply callee arguments)
      (evaluator.apply callee' arguments') := by
  cases values with
  | @function closure closure' closures =>
      rw [Evaluator.apply, Evaluator.apply, closures.parameters, closures.body, lists.length_eq]
      split
      · refine (runs_openFrame closures.frames).bind fun frames => ?_
        refine (runs_bindNames frames _ lists).bind fun _ => ?_
        exact (respects.block frames closures.statements).settle
      · exact runs_fail _
  | builtin builtin =>
      rw [Evaluator.apply, Evaluator.apply, prints_eq builtin lists]
      exact (runs_print _).bind fun _ => runs_ofExcept (results_apply builtin lists)
  | _ => exact runs_fail _

theorem Respects.call (respects : evaluator.Respects corr) (frames : corr.Frames frame frame')
    {callee : Expression} {arguments : List Expression} (inCallee : corr.trees.expression callee)
    (inArguments : corr.trees.expressions arguments) :
    corr.Runs corr.Values (evaluator.call frame callee arguments)
      (evaluator.call frame' callee arguments) := by
  refine (runs_meansQuote frames callee).bind ?_
  rintro quotes _ rfl
  split
  · exact respects.quote frames inArguments
  · exact (respects.on frames inCallee).bind fun values =>
      (respects.list frames inArguments).bind fun lists => respects.apply values lists

/-! ### Steps -/

/-- A step respects what the evaluations inside it respect. -/
theorem Respects.step (respects : evaluator.Respects corr) : Respects evaluator.step corr := by
  intro frame frame' expression frames inside
  cases expression with
  | identifier text => exact runs_name frames ((corr.trees.identifier_iff _).mp inside)
  | integer value => exact runs_pure (.integer value)
  | string text => exact runs_pure (.string text)
  | boolean value => exact runs_pure (.boolean value)
  | unary operator operand =>
      exact (respects.on frames ((corr.trees.unary_iff _ _).mp inside)).bind fun values =>
        runs_ofExcept (results_applyUnary operator values)
  | binary operator left right =>
      have parts := (corr.trees.binary_iff operator left right).mp inside
      exact (respects.on frames parts.1).bind fun first =>
        (respects.on frames parts.2).bind fun second =>
          runs_ofExcept (results_applyBinary operator first second)
  | conditional condition consequence alternative =>
      cases alternative with
      | none =>
          have parts := (corr.trees.conditional_none_iff condition consequence).mp inside
          refine (respects.on frames parts.1).bind fun values => ?_
          rw [values.isTruthy_eq]
          split
          · exact respects.block frames parts.2
          · exact runs_pure .null
      | some alternative =>
          have parts := (corr.trees.conditional_some_iff condition consequence alternative).mp inside
          refine (respects.on frames parts.1).bind fun values => ?_
          rw [values.isTruthy_eq]
          split
          · exact respects.block frames parts.2.1
          · exact respects.block frames parts.2.2
  | function parameters body =>
      have parts := (corr.trees.function_iff parameters body).mp inside
      exact (runs_newClosure frames parts.1 parts.2).bind fun closures =>
        runs_pure (.function closures)
  | call callee arguments =>
      have parts := (corr.trees.call_iff callee arguments).mp inside
      exact respects.call frames parts.1 parts.2
  | array elements =>
      exact (respects.list frames ((corr.trees.array_iff _).mp inside)).bind fun lists =>
        runs_pure (.array lists)
  | index collection position =>
      have parts := (corr.trees.index_iff collection position).mp inside
      exact (respects.on frames parts.1).bind fun first =>
        (respects.on frames parts.2).bind fun second =>
          runs_ofExcept (results_applyIndex first second)
  | hash pairs =>
      exact (respects.entries frames ((corr.trees.hash_iff _).mp inside) .nil).bind fun entries =>
        runs_pure (.hash entries)
  | macroLiteral parameters body =>
      have parts := (corr.trees.macroLiteral_iff parameters body).mp inside
      exact (runs_newClosure frames parts.1 parts.2).bind fun closures =>
        runs_pure (.macroValue closures)

end

end Evaluator

/-- **Evaluation respects every correspondence, however deeply it nests.** -/
theorem respects_evaluate (corr : Correspondence) (depth : Nat) :
    (evaluate depth).Respects corr := by
  induction depth with
  | zero => exact fun _ _ _ _ _ => runs_giveUp
  | succ depth ih => exact ih.step

/-- What a program shows is the error that ended it, or a value of the run. -/
theorem Correspondence.Endings.of_answer {ending : Ending Value}
    (endings : corr.Endings corr.Values ending ending) {program : Program} {shown : Value}
    (shows : answer program ending = some shown) :
    corr.Values shown shown ∨ ∃ cause, ending = .failed cause ∧ shown = .error cause := by
  cases endings with
  | value values =>
      rw [answer] at shows
      split at shows
      · cases shows
      · cases shows
        exact .inl values
  | returned values =>
      cases shows
      exact .inl values
  | failed cause =>
      cases shows
      exact .inr ⟨cause, rfl, rfl⟩

end MonkeyLang
