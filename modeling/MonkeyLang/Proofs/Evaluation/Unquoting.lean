import MonkeyLang.Proofs.Evaluation.Points

/-!
# Quoting is ordered substitution

The outermost calls to `unquote` with one argument leave holes in quoted syntax. Their arguments, in
the order of the text, are what is evaluated when the syntax is quoted, and what is quoted is the
syntax with one node put into each hole (`evaluate_quote`). The evaluations come first, one after
the other; only then, so to speak, are the nodes put in, and they are not searched for holes.

The walk through the syntax interleaves the two. It is followed form by form: a walk that fills the
holes in front of it, followed by one that fills the others, fills them all
(`Evaluator.Fills.bind`).
-/

set_option autoImplicit false

namespace MonkeyLang

/-! ## Holes in syntax -/

mutual
/-- The arguments of the outermost one-argument calls to `unquote` in a statement, in the order of
the text. -/
def Statement.unquotes : Statement → List Expression
  | .bind _ value => value.unquotes
  | .ret value => value.unquotes
  | .evaluate expression => expression.unquotes
  | .group body => unquotesIn body

/-- The arguments of the outermost one-argument calls to `unquote` in statements. -/
def unquotesIn : List Statement → List Expression
  | [] => []
  | first :: rest => first.unquotes ++ unquotesIn rest

/-- The arguments of the outermost one-argument calls to `unquote` in an expression. -/
def Expression.unquotes : Expression → List Expression
  | .identifier _ | .integer _ | .string _ | .boolean _ => []
  | .unary _ operand => operand.unquotes
  | .binary _ left right => left.unquotes ++ right.unquotes
  | .conditional condition consequence none => condition.unquotes ++ unquotesIn consequence
  | .conditional condition consequence (some alternative) =>
    condition.unquotes ++ (unquotesIn consequence ++ unquotesIn alternative)
  | .function _ body => unquotesIn body
  | .call callee arguments =>
    match (Part.expression (.call callee arguments)).unquoted? with
    | some inner => [inner]
    | none => callee.unquotes ++ unquotesInList arguments
  | .array elements => unquotesInList elements
  | .index collection position => collection.unquotes ++ position.unquotes
  | .hash pairs => unquotesInPairs pairs
  | .macroLiteral _ body => unquotesIn body

/-- The arguments of the outermost one-argument calls to `unquote` in expressions. -/
def unquotesInList : List Expression → List Expression
  | [] => []
  | first :: rest => first.unquotes ++ unquotesInList rest

/-- The arguments of the outermost one-argument calls to `unquote` in pairs, those in a key before
those in its value. -/
def unquotesInPairs : List (Expression × Expression) → List Expression
  | [] => []
  | (key, value) :: rest => key.unquotes ++ (value.unquotes ++ unquotesInPairs rest)
end

mutual
/-- A statement with nodes put into its holes, the first into the first hole and so on. -/
def Statement.plug : Statement → List Expression → Statement
  | .bind name value, nodes => .bind name (value.plug nodes)
  | .ret value, nodes => .ret (value.plug nodes)
  | .evaluate expression, nodes => .evaluate (expression.plug nodes)
  | .group body, nodes => .group (plugIn body nodes)
termination_by structural statement => statement

/-- Statements with nodes put into their holes. -/
def plugIn : List Statement → List Expression → List Statement
  | [], _ => []
  | first :: rest, nodes => first.plug nodes :: plugIn rest (nodes.drop first.unquotes.length)
termination_by structural body => body

/-- An expression with nodes put into its holes. A hole for which there is no node stays as it
is. -/
def Expression.plug : Expression → List Expression → Expression
  | .identifier name, _ => .identifier name
  | .integer value, _ => .integer value
  | .string text, _ => .string text
  | .boolean value, _ => .boolean value
  | .unary operator operand, nodes => .unary operator (operand.plug nodes)
  | .binary operator left right, nodes =>
    .binary operator (left.plug nodes) (right.plug (nodes.drop left.unquotes.length))
  | .conditional condition consequence none, nodes =>
    .conditional (condition.plug nodes)
      (plugIn consequence (nodes.drop condition.unquotes.length)) none
  | .conditional condition consequence (some alternative), nodes =>
    .conditional (condition.plug nodes)
      (plugIn consequence (nodes.drop condition.unquotes.length))
      (some (plugIn alternative
        ((nodes.drop condition.unquotes.length).drop (unquotesIn consequence).length)))
  | .function parameters body, nodes => .function parameters (plugIn body nodes)
  | .call callee arguments, nodes =>
    match (Part.expression (.call callee arguments)).unquoted? with
    | some _ => nodes.headD (.call callee arguments)
    | none =>
      .call (callee.plug nodes) (plugInList arguments (nodes.drop callee.unquotes.length))
  | .array elements, nodes => .array (plugInList elements nodes)
  | .index collection position, nodes =>
    .index (collection.plug nodes) (position.plug (nodes.drop collection.unquotes.length))
  | .hash pairs, nodes => .hash (plugInPairs pairs nodes)
  | .macroLiteral parameters body, nodes => .macroLiteral parameters (plugIn body nodes)
termination_by structural expression => expression

/-- Expressions with nodes put into their holes. -/
def plugInList : List Expression → List Expression → List Expression
  | [], _ => []
  | first :: rest, nodes => first.plug nodes :: plugInList rest (nodes.drop first.unquotes.length)
termination_by structural list => list

/-- Pairs with nodes put into their holes. -/
def plugInPairs :
    List (Expression × Expression) → List Expression → List (Expression × Expression)
  | [], _ => []
  | (key, value) :: rest, nodes =>
    (key.plug nodes, value.plug (nodes.drop key.unquotes.length)) ::
      plugInPairs rest ((nodes.drop key.unquotes.length).drop value.unquotes.length)
termination_by structural pairs => pairs
end

/-! ## The holes are the calls -/

/-- A call to `unquote` with one argument. -/
def Expression.unquoteCall (inner : Expression) : Expression :=
  .call (.identifier "unquote") [inner]

theorem Expression.argumentsOfCallTo?_eq_some_iff {name : String} {value : Expression}
    {arguments : List Expression} : value.argumentsOfCallTo? name = some arguments ↔
      value = .call (.identifier name) arguments := by
  unfold argumentsOfCallTo?
  split
  · next callee arguments' => simp
  · next other =>
    simp only [reduceCtorEq, false_iff]
    exact other name arguments

theorem Part.unquoted?_eq_some_iff {value inner : Expression} :
    (Part.expression value).unquoted? = some inner ↔ value = inner.unquoteCall := by
  rw [Expression.unquoteCall, ← Expression.argumentsOfCallTo?_eq_some_iff, Part.unquoted?]
  split
  · next inner' found => simp [found]
  · next other => simpa using other inner

theorem drop_map_append {α β : Type} (f : α → β) (list : List α) (more : List β) :
    (list.map f ++ more).drop list.length = more := by
  rw [← List.length_map f, List.drop_left]

mutual
theorem Statement.plug_unquotes (more : List Expression) : ∀ statement : Statement,
    statement.plug (statement.unquotes.map Expression.unquoteCall ++ more) = statement
  | .bind name value => congrArg (Statement.bind name) (value.plug_unquotes more)
  | .ret value => congrArg Statement.ret (value.plug_unquotes more)
  | .evaluate expression => congrArg Statement.evaluate (expression.plug_unquotes more)
  | .group body => congrArg Statement.group (plugIn_unquotes more body)

theorem plugIn_unquotes (more : List Expression) : ∀ body : List Statement,
    plugIn body ((unquotesIn body).map Expression.unquoteCall ++ more) = body
  | [] => rfl
  | first :: rest => by
    simp only [plugIn, unquotesIn, List.map_append, List.append_assoc, drop_map_append,
      first.plug_unquotes, plugIn_unquotes more rest]

/-- **In the holes of an expression stand the calls to `unquote`.** -/
theorem Expression.plug_unquotes (more : List Expression) : ∀ expression : Expression,
    expression.plug (expression.unquotes.map Expression.unquoteCall ++ more) = expression
  | .identifier _ | .integer _ | .string _ | .boolean _ => rfl
  | .unary operator operand => congrArg (Expression.unary operator) (operand.plug_unquotes more)
  | .binary operator left right => by
    simp only [Expression.plug, Expression.unquotes, List.map_append, List.append_assoc,
      drop_map_append, left.plug_unquotes, right.plug_unquotes more]
  | .conditional condition consequence none => by
    simp only [Expression.plug, Expression.unquotes, List.map_append, List.append_assoc,
      drop_map_append, condition.plug_unquotes, plugIn_unquotes more consequence]
  | .conditional condition consequence (some alternative) => by
    simp only [Expression.plug, Expression.unquotes, List.map_append, List.append_assoc,
      drop_map_append, condition.plug_unquotes, plugIn_unquotes _ consequence,
      plugIn_unquotes more alternative]
  | .function parameters body =>
    congrArg (Expression.function parameters) (plugIn_unquotes more body)
  | .call callee arguments => by
    simp only [Expression.plug, Expression.unquotes]
    cases found : (Part.expression (.call callee arguments)).unquoted? with
    | some inner => exact (Part.unquoted?_eq_some_iff.mp found).symm
    | none =>
        simp only [List.map_append, List.append_assoc, drop_map_append, callee.plug_unquotes,
          plugInList_unquotes more arguments]
  | .array elements => congrArg Expression.array (plugInList_unquotes more elements)
  | .index collection position => by
    simp only [Expression.plug, Expression.unquotes, List.map_append, List.append_assoc,
      drop_map_append, collection.plug_unquotes, position.plug_unquotes more]
  | .hash pairs => congrArg Expression.hash (plugInPairs_unquotes more pairs)
  | .macroLiteral parameters body =>
    congrArg (Expression.macroLiteral parameters) (plugIn_unquotes more body)

theorem plugInList_unquotes (more : List Expression) : ∀ list : List Expression,
    plugInList list ((unquotesInList list).map Expression.unquoteCall ++ more) = list
  | [] => rfl
  | first :: rest => by
    simp only [plugInList, unquotesInList, List.map_append, List.append_assoc, drop_map_append,
      first.plug_unquotes, plugInList_unquotes more rest]

theorem plugInPairs_unquotes (more : List Expression) :
    ∀ pairs : List (Expression × Expression),
      plugInPairs pairs ((unquotesInPairs pairs).map Expression.unquoteCall ++ more) = pairs
  | [] => rfl
  | (key, value) :: rest => by
    simp only [plugInPairs, unquotesInPairs, List.map_append, List.append_assoc, drop_map_append,
      key.plug_unquotes, value.plug_unquotes, plugInPairs_unquotes more rest]
end

/-! ## What is put in, computed first -/

namespace Evaluator

variable {α β : Type} {evaluator : Evaluator} {frame : FrameId}

/-- The syntax for the values of expressions. They are evaluated one after the other, a returned
value being the value, and each value is converted before the next expression is evaluated. -/
def unquoteAll (evaluator : Evaluator) (frame : FrameId) :
    List Expression → Computation (List Expression)
  | [] => return []
  | first :: rest => do
      let value ← (evaluator frame first).settle
      let node ← Computation.ofExcept value.toSyntax
      return node :: (← evaluator.unquoteAll frame rest)

theorem unquoteAll_append (first rest : List Expression) :
    evaluator.unquoteAll frame (first ++ rest) =
      evaluator.unquoteAll frame first >>= fun nodes =>
        (nodes ++ ·) <$> evaluator.unquoteAll frame rest := by
  induction first with
  | nil => simp [unquoteAll]
  | cons expression first ih => simp [unquoteAll, ih]

/-- What follows can rely on one node for each expression. -/
theorem unquoteAll_bind_congr {expressions : List Expression}
    {next next' : List Expression → Computation α}
    (same : ∀ nodes, nodes.length = expressions.length → next nodes = next' nodes) :
    evaluator.unquoteAll frame expressions >>= next =
      evaluator.unquoteAll frame expressions >>= next' := by
  induction expressions generalizing next next' with
  | nil => simp [unquoteAll, same [] rfl]
  | cons expression expressions ih =>
      simp only [unquoteAll, bind_assoc, pure_bind]
      refine bind_congr fun value => bind_congr fun node => ih fun nodes length => ?_
      exact same _ (congrArg Nat.succ length)

/-! ## Walks that fill holes -/

/-- The walk evaluates the expressions and then puts their nodes in. Of more nodes it takes the
first ones. -/
structure Fills (evaluator : Evaluator) (frame : FrameId) (walk : Computation α)
    (expressions : List Expression) (put : List Expression → α) : Prop where
  eq : walk = evaluator.unquoteAll frame expressions >>= fun nodes => pure (put nodes)
  takes : ∀ nodes more, nodes.length = expressions.length → put (nodes ++ more) = put nodes

theorem fills_pure (value : α) : evaluator.Fills frame (pure value) [] fun _ => value :=
  ⟨by simp [unquoteAll], fun _ _ _ => rfl⟩

theorem fills_unquote (inner fallback : Expression) :
    evaluator.Fills frame (evaluator.unquote frame inner) [inner]
      fun nodes => nodes.headD fallback := by
  constructor
  · simp [unquoteAll, unquote]
  · intro nodes more length
    obtain ⟨node, rfl⟩ := List.length_eq_one_iff.mp length
    rfl

theorem Fills.map {walk : Computation α} {expressions : List Expression}
    {put : List Expression → α} (fills : evaluator.Fills frame walk expressions put) (f : α → β) :
    evaluator.Fills frame (walk >>= fun value => pure (f value)) expressions
      fun nodes => f (put nodes) := by
  constructor
  · rw [fills.eq]
    simp only [bind_assoc, pure_bind]
  · exact fun nodes more length => congrArg f (fills.takes nodes more length)

/-- **One walk after another fills the holes of both.** -/
theorem Fills.bind {first : Computation α} {next : α → Computation β}
    {expressions rest : List Expression} {put : List Expression → α}
    {others : α → List Expression → β} (fills : evaluator.Fills frame first expressions put)
    (follows : ∀ value, evaluator.Fills frame (next value) rest (others value)) :
    evaluator.Fills frame (first >>= next) (expressions ++ rest) fun nodes =>
      others (put nodes) (nodes.drop expressions.length) := by
  constructor
  · rw [fills.eq, unquoteAll_append]
    simp only [bind_assoc, pure_bind, (follows _).eq, map_eq_pure_bind]
    refine unquoteAll_bind_congr fun nodes length => bind_congr fun more => ?_
    rw [fills.takes nodes more length, ← length, List.drop_left]
  · intro nodes more length
    have split : nodes = nodes.take expressions.length ++ nodes.drop expressions.length :=
      (List.take_append_drop _ _).symm
    rw [List.length_append] at length
    have enough : (nodes.take expressions.length).length = expressions.length :=
      List.length_take_of_le (by omega)
    rw [List.drop_append_of_le_length (by omega),
      (follows _).takes _ more (by rw [List.length_drop]; omega)]
    refine congrArg (others · _) ?_
    rw [split, List.append_assoc, fills.takes _ _ enough, fills.takes _ _ enough]

/-! ## The walk through quoted syntax -/

theorem fills_call {callee : Expression} {arguments : List Expression}
    (walk : evaluator.Fills frame
      (do
        let callee ← (evaluator.unquoter frame).onExpression callee
        return Expression.call callee (← (evaluator.unquoter frame).onExpressions arguments))
      (callee.unquotes ++ unquotesInList arguments) fun nodes =>
        Expression.call (callee.plug nodes)
          (plugInList arguments (nodes.drop callee.unquotes.length))) :
    evaluator.Fills frame ((evaluator.unquoter frame).onExpression (.call callee arguments))
      (Expression.call callee arguments).unquotes
      fun nodes => (Expression.call callee arguments).plug nodes := by
  rw [Traversal.onExpression, Expression.unquotes]
  simp only [Expression.plug]
  cases found : (Part.expression (.call callee arguments)).unquoted? with
  | none =>
      rw [evaluator.unquoter_of_kept frame found]
      exact walk
  | some inner =>
      rw [evaluator.unquoter_of_unquoted frame found]
      exact fills_unquote inner _

mutual
theorem fills_onStatement : ∀ statement : Statement,
    evaluator.Fills frame ((evaluator.unquoter frame).onStatement statement) statement.unquotes
      fun nodes => statement.plug nodes
  | .bind name value => (fills_onExpression value).map (Statement.bind name)
  | .ret value => (fills_onExpression value).map Statement.ret
  | .evaluate expression => (fills_onExpression expression).map Statement.evaluate
  | .group body => (fills_onStatements body).map Statement.group

theorem fills_onStatements : ∀ body : List Statement,
    evaluator.Fills frame ((evaluator.unquoter frame).onStatements body) (unquotesIn body)
      fun nodes => plugIn body nodes
  | [] => fills_pure []
  | first :: rest =>
    (fills_onStatement first).bind fun first => (fills_onStatements rest).map (first :: ·)

/-- **The walk through an expression fills its holes.** -/
theorem fills_onExpression : ∀ expression : Expression,
    evaluator.Fills frame ((evaluator.unquoter frame).onExpression expression) expression.unquotes
      fun nodes => expression.plug nodes
  | .identifier _ | .integer _ | .string _ | .boolean _ => fills_pure _
  | .unary operator operand => (fills_onExpression operand).map (Expression.unary operator)
  | .binary operator left right =>
    (fills_onExpression left).bind fun left =>
      (fills_onExpression right).map (Expression.binary operator left)
  | .conditional condition consequence none =>
    (fills_onExpression condition).bind fun condition =>
      (fills_onStatements consequence).map (Expression.conditional condition · none)
  | .conditional condition consequence (some alternative) =>
    (fills_onExpression condition).bind fun condition =>
      (fills_onStatements consequence).bind fun consequence =>
        (fills_onStatements alternative).map fun body =>
          Expression.conditional condition consequence (some body)
  | .function parameters body => (fills_onStatements body).map (Expression.function parameters)
  | .call callee arguments =>
    fills_call ((fills_onExpression callee).bind fun callee =>
      (fills_onExpressions arguments).map (Expression.call callee))
  | .array elements => (fills_onExpressions elements).map Expression.array
  | .index collection position =>
    (fills_onExpression collection).bind fun collection =>
      (fills_onExpression position).map (Expression.index collection)
  | .hash pairs => (fills_onPairs pairs).map Expression.hash
  | .macroLiteral parameters body =>
    (fills_onStatements body).map (Expression.macroLiteral parameters)

theorem fills_onExpressions : ∀ list : List Expression,
    evaluator.Fills frame ((evaluator.unquoter frame).onExpressions list) (unquotesInList list)
      fun nodes => plugInList list nodes
  | [] => fills_pure []
  | first :: rest =>
    (fills_onExpression first).bind fun first => (fills_onExpressions rest).map (first :: ·)

theorem fills_onPairs : ∀ pairs : List (Expression × Expression),
    evaluator.Fills frame ((evaluator.unquoter frame).onPairs pairs) (unquotesInPairs pairs)
      fun nodes => plugInPairs pairs nodes
  | [] => fills_pure []
  | (key, value) :: rest =>
    (fills_onExpression key).bind fun key =>
      (fills_onExpression value).bind fun value =>
        (fills_onPairs rest).map ((key, value) :: ·)
end

end Evaluator

/-! ## Quotes -/

namespace Evaluator

variable {evaluator : Evaluator} {frame : FrameId}

/-- The quote of syntax by substitution: first the nodes for its holes are computed, then they are
put in. -/
def substitute (evaluator : Evaluator) (frame : FrameId) (quoted : Expression) :
    Computation Value := do
  let nodes ← evaluator.unquoteAll frame quoted.unquotes
  return .quote (quoted.plug nodes)

theorem quote_eq_substitute (quoted : Expression) :
    evaluator.quote frame [quoted] = evaluator.substitute frame quoted := by
  rw [quote, substitute, (fills_onExpression quoted).eq]
  simp only [bind_assoc, pure_bind]

end Evaluator

/-- **Quoting is ordered substitution.** The quote of syntax is computed by evaluating the arguments
of its outermost calls to `unquote`, in order, and putting the nodes for their values in place of
the calls. So is the value of a call to `quote` with one argument where the name is not bound. If
there is no call to `unquote`, the quote holds the syntax itself and nothing else happens. -/
theorem evaluate_quote (depth : Nat) (frame : FrameId) (quoted : Expression) :
    quoted.plug (quoted.unquotes.map Expression.unquoteCall) = quoted ∧
    (evaluate depth).quote frame [quoted] = (evaluate depth).substitute frame quoted ∧
    ∀ machine, machine.store.lookup? frame "quote" = none →
      evaluate (depth + 1) frame (.call (.identifier "quote") [quoted]) machine =
        (evaluate depth).substitute frame quoted machine ∧
      (quoted.unquotes = [] →
        evaluate (depth + 1) frame (.call (.identifier "quote") [quoted]) machine =
          some (.value (.quote quoted), machine)) := by
  have restored := quoted.plug_unquotes []
  rw [List.append_nil] at restored
  refine ⟨restored, Evaluator.quote_eq_substitute quoted, fun machine unbound => ?_⟩
  have quotes : (Evaluator.meansQuote frame (.identifier "quote")).Reads machine true := by
    rw [Computation.Reads, Evaluator.meansQuote,
      Computation.bind_of_value (Computation.reads_lookup? machine frame "quote"), unbound]
    rfl
  have evaluates : evaluate (depth + 1) frame (.call (.identifier "quote") [quoted]) machine =
      (evaluate depth).substitute frame quoted machine := by
    rw [← Evaluator.quote_eq_substitute]
    exact Evaluator.call_of_quotes quotes
  refine ⟨evaluates, fun none => ?_⟩
  rw [none] at restored
  rw [evaluates, Evaluator.substitute, none]
  exact congrArg (fun node => some (Ending.value (Value.quote node), machine)) restored

/-- `if (true) { let a = 1; 2 }`. -/
def bindingOne : Expression :=
  .conditional (.boolean true) [.bind "a" (.integer 1), .evaluate (.integer 2)] none

/-- `quote(unquote(if (true) { let a = 1; 2 }) + unquote(a))` is the quote of `2 + 1`: the binding
that the first argument makes is there for the second. -/
theorem evaluate_quote_in_order :
    (Store.empty.openFrame none).lookup? 0 "quote" = none ∧
    (evaluate 4 0 (.call (.identifier "quote")
        [.binary .add bindingOne.unquoteCall (Expression.identifier "a").unquoteCall])
      { Machine.initial with store := Store.empty.openFrame none }).map Prod.fst =
        some (.value (.quote (.binary .add (.integer 2) (.integer 1)))) := by
  have unbound : (Store.empty.openFrame none).lookup? 0 "quote" = none :=
    Store.lookup?_of_outermost rfl rfl rfl
  obtain ⟨-, -, evaluates⟩ := evaluate_quote 3 0
    (.binary .add bindingOne.unquoteCall (Expression.identifier "a").unquoteCall)
  refine ⟨unbound, ?_⟩
  rw [(evaluates { Machine.initial with store := Store.empty.openFrame none } unbound).1]
  cbv

end MonkeyLang
