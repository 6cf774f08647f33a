import MonkeyLang.Expansion
import MonkeyLang.Proofs.Evaluation.Completion

/-!
# Points of an evaluation

A point is a part of a program about to be evaluated or rewritten on a machine. A part
is an expression or the statements of a block; it is evaluated in a frame, or searched
for calls to `unquote`, or searched for macro calls.

Here the work at a point is described by the parts of its part. An expression whose
operands are all evaluated is the list of its operands and then what it does with their
values (`Evaluator.step_eq`). A traversal that leaves statements and blocks to their
walks goes through the parts of every part in the order of the text
(`Traversal.WalksBlocks.onExpression_eq`). A call of a closure is its body in a frame of
its own (`Evaluator.apply_closure`, `Evaluator.expandCall_closure`).
-/

set_option autoImplicit false

namespace MonkeyLang

/-! ## Parts -/

/-- What is evaluated or rewritten as one: an expression, or the statements of a block. -/
inductive Part where
  | expression (expression : Expression)
  | block (body : Block)

/-- The part of a statement that is evaluated or rewritten. -/
def Statement.part : Statement → Part
  | .bind _ value => .expression value
  | .ret value => .expression value
  | .evaluate expression => .expression expression
  | .group body => .block body

/-- Keys and values in the order of the text. -/
def pairParts : List (Expression × Expression) → List Part
  | [] => []
  | (key, value) :: rest => .expression key :: .expression value :: pairParts rest

/-- The parts directly inside an expression, in the order of the text. -/
def Expression.parts : Expression → List Part
  | .identifier _ | .integer _ | .string _ | .boolean _ => []
  | .unary _ operand => [.expression operand]
  | .binary _ left right => [.expression left, .expression right]
  | .conditional condition consequence none => [.expression condition, .block consequence]
  | .conditional condition consequence (some alternative) =>
    [.expression condition, .block consequence, .block alternative]
  | .function _ body | .macroLiteral _ body => [.block body]
  | .call callee arguments => .expression callee :: arguments.map .expression
  | .array elements => elements.map .expression
  | .index collection position => [.expression collection, .expression position]
  | .hash pairs => pairParts pairs

/-- The parts directly inside a part, in the order of the text. -/
def Part.parts : Part → List Part
  | .expression value => value.parts
  | .block body => body.map Statement.part

/-! ## Expressions that evaluate all their operands -/

/-- The forms whose operands are evaluated first of all, whatever they are. Of a conditional this is
its condition. -/
def Expression.operands? : Expression → Option (List Expression)
  | .unary _ operand => some [operand]
  | .binary _ left right => some [left, right]
  | .conditional condition _ _ => some [condition]
  | .array elements => some elements
  | .index collection position => some [collection, position]
  | _ => none

namespace Evaluator

variable {evaluator : Evaluator} {frame : FrameId}

/-- What such a form does with the values of its operands. -/
def finish (evaluator : Evaluator) (frame : FrameId) : Expression → List Value → Computation Value
  | .unary operator _, [operand] => Computation.ofExcept (operand.applyUnary operator)
  | .binary operator _ _, [left, right] => Computation.ofExcept (left.applyBinary operator right)
  | .conditional _ consequence alternative, [condition] =>
    if condition.isTruthy then
      evaluator.block frame consequence
    else
      match alternative with
      | some alternative => evaluator.block frame alternative
      | none => return .null
  | .array _, elements => return .array elements
  | .index _ _, [collection, position] => Computation.ofExcept (collection.applyIndex position)
  | _, _ => Computation.giveUp

theorem step_eq {expression : Expression} {operands : List Expression}
    (strict : expression.operands? = some operands) :
    evaluator.step frame expression =
      evaluator.list frame operands >>= evaluator.finish frame expression := by
  cases expression with
  | unary | binary | index =>
      cases strict
      simp [Evaluator.step, Evaluator.list, finish]
  | conditional =>
      cases strict
      simp only [Evaluator.step, Evaluator.list, bind_assoc, pure_bind]
      rfl
  | array => cases strict; rfl
  | _ => cases strict

/-- A conditional goes on with the branch that the value of its condition chooses. -/
theorem finish_conditional {condition : Expression} {consequence body : Block}
    {alternative : Option Block} {value : Value}
    (chosen : (if value.isTruthy then some consequence else alternative) = some body) :
    evaluator.finish frame (.conditional condition consequence alternative) [value] =
      evaluator.block frame body := by
  simp only [finish]
  split at chosen
  · next truthy =>
    cases chosen
    exact if_pos truthy
  · next untruthy =>
    subst chosen
    exact if_neg untruthy

/-- Only a branch of a conditional can return. -/
theorem of_finish_eq_returned {expression : Expression} {values : List Value} {result : Value}
    {machine after : Machine}
    (ends : evaluator.finish frame expression values machine = some (.returned result, after)) :
    ∃ condition consequence alternative value body,
      expression = .conditional condition consequence alternative ∧ values = [value] ∧
        (if value.isTruthy then some consequence else alternative) = some body ∧
          evaluator.block frame body machine = some (.returned result, after) := by
  have exits : ∀ outcome : Except RuntimeError Value,
      Computation.ofExcept outcome machine ≠ some (.returned result, after) := by
    rintro (_ | _) ⟨⟩
  unfold finish at ends
  split at ends
  · exact absurd ends (exits _)
  · exact absurd ends (exits _)
  · next condition consequence alternative value =>
    split at ends
    · next truthy => exact ⟨_, _, _, _, _, rfl, rfl, if_pos truthy, ends⟩
    · next untruthy =>
      cases alternative with
      | none => cases ends
      | some body => exact ⟨_, _, _, _, _, rfl, rfl, if_neg untruthy, ends⟩
  · cases ends
  · exact absurd ends (exits _)
  · cases ends

end Evaluator

/-! ## Calls -/

namespace Evaluator

variable {evaluator : Evaluator} {frame : FrameId}

/-- Whether a callee means quoting is read off the machine. -/
theorem exists_reads_meansQuote (frame : FrameId) (callee : Expression) (machine : Machine) :
    ∃ quotes, (meansQuote frame callee).Reads machine quotes := by
  unfold meansQuote
  split
  · exact ⟨_, (Computation.reads_lookup? machine frame "quote").bind (Computation.reads_pure _)⟩
  · exact ⟨false, Computation.reads_pure false⟩

theorem call_of_quotes {callee : Expression} {arguments : List Expression} {machine : Machine}
    (quotes : (meansQuote frame callee).Reads machine true) :
    evaluator.call frame callee arguments machine = evaluator.quote frame arguments machine :=
  Computation.bind_of_value quotes _

/-- Applies the first of some values to the others. -/
def applyFirst (evaluator : Evaluator) : List Value → Computation Value
  | callee :: arguments => evaluator.apply callee arguments
  | [] => Computation.giveUp

/-- A call that quotes nothing evaluates the callee and the arguments, and applies the one to the
others. -/
theorem call_of_plain {callee : Expression} {arguments : List Expression} {machine : Machine}
    (plain : (meansQuote frame callee).Reads machine false) :
    evaluator.call frame callee arguments machine =
      (evaluator.list frame (callee :: arguments) >>= evaluator.applyFirst) machine := by
  refine (Computation.bind_of_value plain _).trans ?_
  simp [Evaluator.list, applyFirst]

end Evaluator

/-- The machine with names bound in a frame, in order, as far as there are both names and values. -/
def Machine.bindNames (machine : Machine) (frame : FrameId) : List String → List Value → Machine
  | name :: names, value :: values =>
    Machine.bindNames { machine with store := machine.store.bind frame name value } frame names
      values
  | _, _ => machine

/-- The machine on which the body of a closure starts: a frame for the call has been opened, and
the parameters are bound in it. -/
def Machine.enter (machine : Machine) (closure : Closure) (arguments : List Value) : Machine :=
  Machine.bindNames { machine with store := machine.store.openFrame (some closure.frame) }
    machine.store.size closure.parameters arguments

theorem Computation.bindNames_eq (frame : FrameId) (names : List String) (values : List Value)
    (machine : Machine) : Computation.bindNames frame names values machine =
      some (.value (), machine.bindNames frame names values) := by
  induction names generalizing values machine with
  | nil => rfl
  | cons name names ih =>
      cases values with
      | nil => rfl
      | cons value values => exact ih values _

namespace Evaluator

variable {evaluator : Evaluator} {closure : Closure} {machine : Machine}

/-- A call of a function is its body on the machine entered, with what it returns as its value. -/
theorem apply_closure {arguments : List Value}
    (arity : closure.parameters.length = arguments.length) :
    evaluator.apply (.function closure) arguments machine =
      (evaluator.block machine.store.size closure.body).settle
        (machine.enter closure arguments) := by
  have opened : Computation.openFrame closure.frame machine = some (.value machine.store.size,
    { machine with store := machine.store.openFrame (some closure.frame) }) := rfl
  rw [Evaluator.apply, if_pos arity, Computation.bind_of_value opened]
  exact Computation.bind_of_value (Computation.bindNames_eq _ _ _ _) _

/-- The syntax that a macro gives with the value of its body. -/
def macroSyntax : Value → Computation Expression
  | .quote node => return node
  | other => Computation.fail (.macroResult other.kind)

/-- A call of a macro is its body on the machine entered, which has to give a quote. -/
theorem expandCall_closure {arguments : List Expression}
    (arity : closure.parameters.length = arguments.length) :
    evaluator.expandCall closure arguments machine =
      ((evaluator.block machine.store.size closure.body).settle >>= macroSyntax)
        (machine.enter closure (arguments.map .quote)) := by
  have opened : Computation.openFrame closure.frame machine = some (.value machine.store.size,
    { machine with store := machine.store.openFrame (some closure.frame) }) := rfl
  rw [Evaluator.expandCall, if_pos arity, Computation.bind_of_value opened]
  refine (Computation.bind_of_value (Computation.bindNames_eq _ _ _ _) _).trans ?_
  rfl

end Evaluator

/-! ## Traversals -/

/-- Expressions among parts. -/
def expressionsOf (parts : List Part) : List Expression :=
  parts.filterMap fun
    | .expression value => some value
    | .block _ => none

/-- Expressions two by two. -/
def pairsOf : List Part → List (Expression × Expression)
  | .expression key :: .expression value :: rest => (key, value) :: pairsOf rest
  | _ => []

/-- A statement around another part. -/
def Statement.withPart : Statement → Part → Statement
  | .bind name _, .expression value => .bind name value
  | .ret _, .expression value => .ret value
  | .evaluate _, .expression value => .evaluate value
  | .group _, .block body => .group body
  | statement, _ => statement

/-- An expression around other parts. -/
def Expression.withParts : Expression → List Part → Expression
  | .unary operator _, [.expression operand] => .unary operator operand
  | .binary operator _ _, [.expression left, .expression right] => .binary operator left right
  | .conditional _ _ none, [.expression condition, .block consequence] =>
    .conditional condition consequence none
  | .conditional _ _ (some _), [.expression condition, .block consequence, .block alternative] =>
    .conditional condition consequence (some alternative)
  | .function parameters _, [.block body] => .function parameters body
  | .macroLiteral parameters _, [.block body] => .macroLiteral parameters body
  | .call _ _, .expression callee :: rest => .call callee (expressionsOf rest)
  | .array _, parts => .array (expressionsOf parts)
  | .index _ _, [.expression collection, .expression position] => .index collection position
  | .hash _, parts => .hash (pairsOf parts)
  | expression, _ => expression

namespace Traversal

variable {m : Type → Type} [Monad m] {traversal : Traversal m}

/-- What becomes of a part. -/
def onPart (traversal : Traversal m) : Part → m Part
  | .expression value => .expression <$> traversal.onExpression value
  | .block body => .block <$> traversal.onStatements body

/-- What becomes of parts, one after the other. -/
def onParts (traversal : Traversal m) : List Part → m (List Part)
  | [] => return []
  | first :: rest => do
      let first ← traversal.onPart first
      return first :: (← traversal.onParts rest)

/-- A traversal that leaves statements and blocks to their walks. -/
structure WalksBlocks (traversal : Traversal m) : Prop where
  statement : ∀ node walk, traversal.statement node walk = walk
  block : ∀ node walk, traversal.block node walk = walk

section Walks

variable [LawfulMonad m] (walksBlocks : traversal.WalksBlocks)

theorem onParts_expressions (list : List Expression) :
    traversal.onParts (list.map .expression) =
      List.map Part.expression <$> traversal.onExpressions list := by
  induction list with
  | nil => simp [onParts, onExpressions]
  | cons first rest ih => simp [onParts, onPart, onExpressions, ih]

theorem onExpressions_eq (list : List Expression) :
    traversal.onExpressions list = expressionsOf <$> traversal.onParts (list.map .expression) := by
  have same : ∀ list : List Expression, expressionsOf (list.map .expression) = list := by
    intro list
    induction list with
    | nil => rfl
    | cons first rest ih => exact congrArg (first :: ·) ih
  rw [onParts_expressions, Functor.map_map]
  simp [same]

theorem onPairs_eq (pairs : List (Expression × Expression)) :
    traversal.onPairs pairs = pairsOf <$> traversal.onParts (pairParts pairs) := by
  induction pairs with
  | nil => simp [onPairs, onParts, pairParts, pairsOf]
  | cons first rest ih =>
      obtain ⟨key, value⟩ := first
      simp [onPairs, onParts, onPart, pairParts, pairsOf, ih]

include walksBlocks in
/-- What becomes of a statement is the statement around what becomes of its part. -/
theorem WalksBlocks.onStatement_eq (statement : Statement) :
    traversal.onStatement statement = statement.withPart <$> traversal.onPart statement.part := by
  cases statement with
  | bind | ret | evaluate =>
      rw [onStatement, walksBlocks.statement]
      simp [Statement.part, Statement.withPart, onPart]
  | group body =>
      rw [onStatement, walksBlocks.statement, walksBlocks.block]
      simp [Statement.part, Statement.withPart, onPart]

include walksBlocks in
theorem WalksBlocks.onStatements_eq (body : List Statement) :
    traversal.onStatements body =
      List.zipWith Statement.withPart body <$> traversal.onParts (body.map Statement.part) := by
  induction body with
  | nil => simp [onStatements, onParts]
  | cons first rest ih =>
      simp [onStatements, onParts, walksBlocks.onStatement_eq, ih]

include walksBlocks in
/-- **A walk goes through the parts of an expression in the order of the text.** -/
theorem WalksBlocks.onExpression_eq (expression : Expression) :
    traversal.onExpression expression = traversal.expression expression
      (expression.withParts <$> traversal.onParts expression.parts) := by
  cases expression with
  | identifier | integer | string | boolean =>
      simp [onExpression, Expression.parts, Expression.withParts, onParts]
  | unary | binary | index =>
      simp [onExpression, Expression.parts, Expression.withParts, onParts, onPart]
  | conditional condition consequence alternative =>
      cases alternative <;>
        simp [onExpression, Expression.parts, Expression.withParts, onParts, onPart,
          walksBlocks.block]
  | function | macroLiteral =>
      simp [onExpression, Expression.parts, Expression.withParts, onParts, onPart,
        walksBlocks.block]
  | call callee arguments =>
      simp [onExpression, Expression.parts, Expression.withParts, onParts, onPart, onExpressions_eq]
  | array elements =>
      simp only [onExpression, onExpressions_eq, bind_pure_comp, Functor.map_map]
      rfl
  | hash pairs =>
      simp only [onExpression, onPairs_eq, bind_pure_comp, Functor.map_map]
      rfl

end Walks

/-- Parts after others are walked through after them. -/
theorem onParts_append [LawfulMonad m] (before later : List Part) :
    traversal.onParts (before ++ later) =
      traversal.onParts before >>= fun parts => (parts ++ ·) <$> traversal.onParts later := by
  induction before with
  | nil => simp [onParts]
  | cons first rest ih => simp [onParts, ih]

/-- A part is left early when one of the parts in it is, if its walk comes before anything else. -/
theorem onPart_of_signal {traversal : Traversal Computation} {part : Part} {signal : Signal}
    {machine after : Machine} (walksBlocks : traversal.WalksBlocks)
    (walksFirst : ∀ value walk, part = .expression value →
      ∃ next, traversal.expression value walk = walk >>= next)
    (broken : traversal.onParts part.parts machine = some (signal.ending, after)) :
    traversal.onPart part machine = some (signal.ending, after) := by
  cases part with
  | expression value =>
      obtain ⟨next, walks⟩ :=
        walksFirst value (value.withParts <$> traversal.onParts value.parts) rfl
      rw [onPart, Computation.map_eq_signal_iff, walksBlocks.onExpression_eq, walks]
      exact Computation.bind_of_signal (Computation.map_eq_signal_iff.mpr broken) next
  | block body =>
      rw [onPart, Computation.map_eq_signal_iff, walksBlocks.onStatements_eq]
      exact Computation.map_eq_signal_iff.mpr broken

end Traversal

/-- The argument of a call to `unquote` with one argument. -/
def Part.unquoted? : Part → Option Expression
  | .expression value =>
    match value.argumentsOfCallTo? "unquote" with
    | some [inner] => some inner
    | _ => none
  | .block _ => none

namespace Evaluator

variable (evaluator : Evaluator)

/-- Quoted syntax is left to its walk unless it is a call to `unquote`. -/
theorem unquoter_of_kept {value : Expression} (frame : FrameId)
    (kept : (Part.expression value).unquoted? = none) (walk : Computation Expression) :
    (evaluator.unquoter frame).expression value walk = walk := by
  rw [Part.unquoted?] at kept
  rw [Evaluator.unquoter]
  split at kept
  · cases kept
  · next other =>
    dsimp only
    split
    · next inner same => exact (other inner same).elim
    · rfl

theorem unquoter_of_unquoted {value inner : Expression} (frame : FrameId)
    (unquoted : (Part.expression value).unquoted? = some inner) (walk : Computation Expression) :
    (evaluator.unquoter frame).expression value walk = evaluator.unquote frame inner := by
  rw [Part.unquoted?] at unquoted
  rw [Evaluator.unquoter]
  split at unquoted
  · next same =>
    cases unquoted
    simp only [same]
  · cases unquoted

theorem walksBlocks_unquoter (frame : FrameId) : (evaluator.unquoter frame).WalksBlocks :=
  ⟨fun _ _ => rfl, fun _ _ => rfl⟩

/-- In place of a call to `unquote` comes the syntax for the value of its argument. -/
theorem onPart_unquoter {part : Part} {inner : Expression} (frame : FrameId)
    (unquoted : part.unquoted? = some inner) :
    (evaluator.unquoter frame).onPart part = Part.expression <$> evaluator.unquote frame inner := by
  cases part with
  | expression value =>
      rw [Traversal.onPart, (evaluator.walksBlocks_unquoter frame).onExpression_eq,
        evaluator.unquoter_of_unquoted frame unquoted]
  | block body => cases unquoted

theorem walksBlocks_expander (macros : FrameId) : (evaluator.expander macros).WalksBlocks :=
  ⟨fun _ _ => rfl, fun _ _ => rfl⟩

end Evaluator

/-! ## Points -/

/-- What is done with a part: it is evaluated in a frame, searched for calls to `unquote` that are
evaluated in a frame, or searched for calls of the macros in a frame. -/
inductive Mode where
  | evaluating (frame : FrameId)
  | quoting (frame : FrameId)
  | expanding (macros : FrameId)

/-- What a part comes to: its value, or the part that takes its place. -/
inductive Product where
  | value (value : Value)
  | part (part : Part)

/-- What becomes of a part in a mode. -/
def Mode.run : Mode → Part → Process Product
  | .evaluating frame, .expression value => fun depth => .value <$> evaluate depth frame value
  | .evaluating frame, .block body => fun depth => .value <$> (evaluate depth).block frame body
  | .quoting frame, part => fun depth => .part <$> ((evaluate depth).unquoter frame).onPart part
  | .expanding macros, part => fun depth => .part <$> ((evaluate depth).expander macros).onPart part

/-- A part about to be evaluated or rewritten on a machine. -/
structure Point where
  mode : Mode
  part : Part
  machine : Machine

namespace Point

/-- How the work at the point ends, and on which machine. -/
def Ends (point : Point) (ending : Ending Product) (after : Machine) : Prop :=
  (point.mode.run point.part).Ends point.machine ending after

/-- The work at the point ends early with a signal. -/
def Breaks (point : Point) (signal : Signal) (after : Machine) : Prop :=
  point.Ends signal.ending after

variable {frame macros : FrameId} {value : Expression} {body : Block} {part : Part}
  {machine after : Machine} {signal : Signal}

theorem breaks_expression_iff :
    Breaks ⟨.evaluating frame, .expression value, machine⟩ signal after ↔
      Process.Breaks (fun depth => evaluate depth frame value) machine signal after :=
  Process.breaks_map_iff

theorem breaks_block_iff :
    Breaks ⟨.evaluating frame, .block body, machine⟩ signal after ↔
      Process.Breaks (fun depth => (evaluate depth).block frame body) machine signal after :=
  Process.breaks_map_iff

theorem breaks_quoting_iff : Breaks ⟨.quoting frame, part, machine⟩ signal after ↔
    Process.Breaks (fun depth => ((evaluate depth).unquoter frame).onPart part) machine signal
      after :=
  Process.breaks_map_iff

theorem breaks_expanding_iff : Breaks ⟨.expanding macros, part, machine⟩ signal after ↔
    Process.Breaks (fun depth => ((evaluate depth).expander macros).onPart part) machine signal
      after :=
  Process.breaks_map_iff

end Point

end MonkeyLang
