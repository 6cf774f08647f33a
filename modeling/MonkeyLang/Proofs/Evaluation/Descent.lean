import Mathlib.Logic.Relation
import MonkeyLang.Proofs.Evaluation.Points

/-!
# Descending into an evaluation

The evaluation of a part comes to the parts inside it one after the other, in the order
of the text, and each of them starts on the machine that the parts before it left. One
such step from a point to a point inside it is `Enters`: to an operand, an element, an
argument, a key or the value under a key, to the branch that a condition chooses, to the
value of a statement, and through the syntax that `quote` or the macro pass rewrites.
Whatever signal the inner point breaks with, the outer point breaks with it, on the same
machine (`Reaches.breaks`): nothing after the inner part was begun, and nothing undone.

Three steps are different, because the inner point stands for a body of its own: the
call of a function, a call to `unquote`, and the call of a macro (`EntersBody`). Here a
value that is returned counts as the value of the body (`EntersBody.ends`). An error
goes on outwards, through any number of bodies (`Surrounds.fails`).
-/

set_option autoImplicit false

namespace MonkeyLang

open Relation (ReflTransGen)

/-! ## Steps into parts -/

/-- The work at the first point comes to the second point when everything before it has completed
with a value. -/
inductive Enters : Point → Point → Prop where
  /-- An operand, when those to the left of it have values. -/
  | operand {frame : FrameId} {whole part : Expression} {operands before later : List Expression}
      {values : List Value} {machine middle : Machine} (strict : whole.operands? = some operands)
      (place : operands = before ++ part :: later)
      (completed : Process.Ends (fun depth => (evaluate depth).list frame before) machine
        (.value values) middle) :
      Enters ⟨.evaluating frame, .expression whole, machine⟩
        ⟨.evaluating frame, .expression part, middle⟩
  /-- The callee, and the arguments after it, of a call that quotes nothing. -/
  | argument {frame : FrameId} {callee part : Expression}
      {arguments before later : List Expression} {values : List Value} {machine middle : Machine}
      (plain : (Evaluator.meansQuote frame callee).Reads machine false)
      (place : callee :: arguments = before ++ part :: later)
      (completed : Process.Ends (fun depth => (evaluate depth).list frame before) machine
        (.value values) middle) :
      Enters ⟨.evaluating frame, .expression (.call callee arguments), machine⟩
        ⟨.evaluating frame, .expression part, middle⟩
  /-- The branch that the value of the condition chooses. -/
  | branch {frame : FrameId} {condition : Expression} {consequence body : Block}
      {alternative : Option Block} {value : Value} {machine middle : Machine}
      (tested : Process.Ends (fun depth => evaluate depth frame condition) machine
        (.value value) middle)
      (chosen : (if value.isTruthy then some consequence else alternative) = some body) :
      Enters ⟨.evaluating frame, .expression (.conditional condition consequence alternative),
          machine⟩
        ⟨.evaluating frame, .block body, middle⟩
  /-- A key, when the pairs before it are entries. -/
  | key {frame : FrameId} {pairs before later : List (Expression × Expression)}
      {key value : Expression} {table : HashTable} {machine middle : Machine}
      (place : pairs = before ++ (key, value) :: later)
      (completed : Process.Ends (fun depth => (evaluate depth).entries frame [] before) machine
        (.value table) middle) :
      Enters ⟨.evaluating frame, .expression (.hash pairs), machine⟩
        ⟨.evaluating frame, .expression key, middle⟩
  /-- The value under a key that is fit for one. -/
  | stored {frame : FrameId} {pairs before later : List (Expression × Expression)}
      {key value : Expression} {table : HashTable} {source : Value} {hashed : HashKey}
      {machine middle between : Machine} (place : pairs = before ++ (key, value) :: later)
      (completed : Process.Ends (fun depth => (evaluate depth).entries frame [] before) machine
        (.value table) middle)
      (keyed : Process.Ends (fun depth => evaluate depth frame key) middle (.value source) between)
      (hashes : source.hashKey = .ok hashed) :
      Enters ⟨.evaluating frame, .expression (.hash pairs), machine⟩
        ⟨.evaluating frame, .expression value, between⟩
  /-- What a statement evaluates, when the statements before it have values. -/
  | statement {frame : FrameId} {body before later : List Statement} {first : Statement}
      {value : Value} {machine middle : Machine} (place : body = before ++ first :: later)
      (completed : Process.Ends (fun depth => (evaluate depth).block frame before) machine
        (.value value) middle) :
      Enters ⟨.evaluating frame, .block body, machine⟩ ⟨.evaluating frame, first.part, middle⟩
  /-- The syntax that is quoted. -/
  | quoted {frame : FrameId} {callee node : Expression} {machine : Machine}
      (quotes : (Evaluator.meansQuote frame callee).Reads machine true) :
      Enters ⟨.evaluating frame, .expression (.call callee [node]), machine⟩
        ⟨.quoting frame, .expression node, machine⟩
  /-- A part of quoted syntax, when the parts before it are rewritten. -/
  | quotedPart {frame : FrameId} {whole part : Part} {before later parts : List Part}
      {machine middle : Machine} (kept : whole.unquoted? = none)
      (place : whole.parts = before ++ part :: later)
      (completed : Process.Ends (fun depth => ((evaluate depth).unquoter frame).onParts before)
        machine (.value parts) middle) :
      Enters ⟨.quoting frame, whole, machine⟩ ⟨.quoting frame, part, middle⟩
  /-- A part of syntax whose macro calls are expanded, when the parts before it are rewritten. -/
  | expandedPart {macros : FrameId} {whole part : Part} {before later parts : List Part}
      {machine middle : Machine} (place : whole.parts = before ++ part :: later)
      (completed : Process.Ends (fun depth => ((evaluate depth).expander macros).onParts before)
        machine (.value parts) middle) :
      Enters ⟨.expanding macros, whole, machine⟩ ⟨.expanding macros, part, middle⟩

/-- The work at the first point comes to the second one by steps into parts. -/
def Reaches : Point → Point → Prop :=
  ReflTransGen Enters

/-! ## A part that breaks -/

section Lists

variable {frame : FrameId} {machine middle after : Machine} {signal : Signal}

/-- An expression that breaks breaks the list that it stands in. -/
theorem breaks_list {before : List Expression} {part : Expression} {values : List Value}
    (completed : Process.Ends (fun depth => (evaluate depth).list frame before) machine
      (.value values) middle)
    (breaks : Process.Breaks (fun depth => evaluate depth frame part) middle signal after)
    (later : List Expression) :
    Process.Breaks (fun depth => (evaluate depth).list frame (before ++ part :: later)) machine
      signal after := by
  have both := completed.bind
    (fun values depth => (values ++ ·) <$> (evaluate depth).list frame (part :: later))
    (Process.breaks_map_iff.mpr breaks.bind)
  refine both.congr fun depth => ?_
  rw [Evaluator.list_append]

/-- A part that breaks breaks the walk that comes to it. -/
theorem breaks_onParts {traversal : Nat → Traversal Computation} {before parts : List Part}
    {part : Part}
    (completed : Process.Ends (fun depth => (traversal depth).onParts before) machine
      (.value parts) middle)
    (breaks : Process.Breaks (fun depth => (traversal depth).onPart part) middle signal after)
    (later : List Part) :
    Process.Breaks (fun depth => (traversal depth).onParts (before ++ part :: later)) machine signal
      after := by
  have both := completed.bind
    (fun parts depth => (parts ++ ·) <$> (traversal depth).onParts (part :: later))
    (Process.breaks_map_iff.mpr breaks.bind)
  refine both.congr fun depth => ?_
  rw [Traversal.onParts_append]

/-- A statement breaks when what it evaluates breaks. -/
theorem breaks_statement {first : Statement}
    (breaks : Point.Breaks ⟨.evaluating frame, first.part, machine⟩ signal after) :
    Process.Breaks (fun depth => (evaluate depth).statement frame first) machine signal after := by
  cases first with
  | bind name value => exact (Point.breaks_expression_iff.mp breaks).bind
  | ret value => exact (Point.breaks_expression_iff.mp breaks).bind
  | evaluate value => exact Point.breaks_expression_iff.mp breaks
  | group body => exact Point.breaks_block_iff.mp breaks

/-- A statement that breaks breaks the block that it stands in. -/
theorem breaks_block {before : List Statement} {first : Statement} {value : Value}
    (completed : Process.Ends (fun depth => (evaluate depth).block frame before) machine
      (.value value) middle)
    (breaks : Process.Breaks (fun depth => (evaluate depth).statement frame first) middle signal
      after)
    (later : List Statement) :
    Process.Breaks (fun depth => (evaluate depth).block frame (before ++ first :: later)) machine
      signal after := by
  have both := completed.bind
    (fun value depth => (evaluate depth).statements frame value (first :: later)) breaks.bind
  refine both.congr fun depth => ?_
  exact congrFun (Evaluator.statements_append before (first :: later) .null) machine

/-- Pairs that break break the hash of them. -/
theorem breaks_hash {pairs before later : List (Expression × Expression)}
    (place : pairs = before ++ later)
    (breaks : Process.Breaks (fun depth => (evaluate depth).entries frame [] before >>= fun table =>
      (evaluate depth).entries frame table later) machine signal after) :
    Process.Breaks (fun depth => evaluate depth frame (.hash pairs)) machine signal after := by
  subst place
  have hash := (Process.breaks_map_iff (f := Value.hash)).mpr breaks
  refine hash.step fun depth => ?_
  rw [← Evaluator.entries_append]
  exact congrFun (bind_pure_comp Value.hash _) machine

end Lists

/-- **One step: a part that breaks breaks what it is a part of**, with its own signal and on its
own machine. -/
theorem Enters.breaks {outer inner : Point} {signal : Signal} {after : Machine}
    (enters : Enters outer inner) (breaks : inner.Breaks signal after) :
    outer.Breaks signal after := by
  cases enters with
  | @operand frame whole part operands before later values machine middle strict place completed =>
      rw [Point.breaks_expression_iff] at breaks ⊢
      have list := breaks_list completed breaks later
      rw [← place] at list
      exact list.bind.step fun depth => congrFun (Evaluator.step_eq strict) machine
  | @argument frame callee part arguments before later values machine middle plain place
      completed =>
      rw [Point.breaks_expression_iff] at breaks ⊢
      have list := breaks_list completed breaks later
      rw [← place] at list
      exact list.bind.step fun depth => Evaluator.call_of_plain plain
  | @branch frame condition consequence body alternative value machine middle tested chosen =>
      rw [Point.breaks_block_iff] at breaks
      rw [Point.breaks_expression_iff]
      refine (tested.bind (fun value depth => (evaluate depth).finish frame
        (.conditional condition consequence alternative) [value]) ?_).step fun depth => rfl
      exact breaks.congr fun depth => congrFun (Evaluator.finish_conditional chosen) middle
  | @key frame pairs before later key value table machine middle place completed =>
      rw [Point.breaks_expression_iff] at breaks ⊢
      have rest := completed.bind (fun table depth =>
        (evaluate depth).entries frame table ((key, value) :: later)) breaks.bind
      exact breaks_hash place rest
  | @stored frame pairs before later key value table source hashed machine middle between place
      completed keyed hashes =>
      rw [Point.breaks_expression_iff] at breaks ⊢
      have pair := keyed.bind (fun source depth =>
        Computation.ofExcept source.hashKey >>= fun hashed =>
          evaluate depth frame value >>= fun stored =>
            (evaluate depth).entries frame (table.set hashed (source, stored)) later)
        (by rw [hashes]; exact breaks.bind)
      have rest := completed.bind (fun table depth =>
        (evaluate depth).entries frame table ((key, value) :: later)) pair
      exact breaks_hash place rest
  | statement place completed =>
      rw [Point.breaks_block_iff, place]
      exact breaks_block completed (breaks_statement breaks) _
  | @quoted frame callee node machine quotes =>
      rw [Point.breaks_quoting_iff] at breaks
      rw [Point.breaks_expression_iff]
      have node := Process.breaks_map_iff.mp breaks
      have quote := (Process.breaks_map_iff (f := Value.quote)).mpr node
      refine quote.step fun depth => (Evaluator.call_of_quotes quotes).trans ?_
      simp [Evaluator.quote]
  | @quotedPart frame whole part before later parts machine middle kept place completed =>
      rw [Point.breaks_quoting_iff] at breaks ⊢
      obtain ⟨depth, broken⟩ := breaks_onParts completed breaks later
      refine ⟨depth, fun more le => ?_⟩
      refine Traversal.onPart_of_signal (Evaluator.walksBlocks_unquoter _ frame) ?_
        (place ▸ broken more le)
      rintro value walk rfl
      exact ⟨pure, by rw [Evaluator.unquoter_of_kept _ frame kept, bind_pure]⟩
  | @expandedPart macros whole part before later parts machine middle place completed =>
      rw [Point.breaks_expanding_iff] at breaks ⊢
      obtain ⟨depth, broken⟩ := breaks_onParts completed breaks later
      refine ⟨depth, fun more le => ?_⟩
      exact Traversal.onPart_of_signal (Evaluator.walksBlocks_expander _ macros)
        (fun _ _ _ => ⟨_, rfl⟩) (place ▸ broken more le)

/-- **A part that breaks breaks everything around it**, with its own signal and on its own
machine. -/
theorem Reaches.breaks {outer inner : Point} {signal : Signal} {after : Machine}
    (reaches : Reaches outer inner) (breaks : inner.Breaks signal after) :
    outer.Breaks signal after := by
  induction reaches with
  | refl => exact breaks
  | tail _ enters ih => exact ih (enters.breaks breaks)

/-! ## Steps into bodies -/

/-- The part that takes the place of a call to `unquote` with this value. -/
def unquotedPart (value : Value) : Ending Product :=
  match value.toSyntax with
  | .ok node => .value (.part (.expression node))
  | .error cause => .failed cause

/-- The part that takes the place of a macro call whose body has this value. -/
def expandedPart : Value → Ending Product
  | .quote node => .value (.part (.expression node))
  | other => .failed (.macroResult other.kind)

/-- The work at the first point comes to a body of its own at the second point, and ends as the
function says when the body has a value. -/
inductive EntersBody : Point → Point → (Value → Ending Product) → Prop where
  /-- The body of a function that is called. -/
  | call {frame : FrameId} {callee : Expression} {arguments : List Expression} {closure : Closure}
      {values : List Value} {machine middle entered : Machine}
      (plain : (Evaluator.meansQuote frame callee).Reads machine false)
      (called : Process.Ends (fun depth => evaluate depth frame callee) machine
        (.value (.function closure)) middle)
      (completed : Process.Ends (fun depth => (evaluate depth).list frame arguments) middle
        (.value values) entered)
      (arity : closure.parameters.length = values.length) :
      EntersBody ⟨.evaluating frame, .expression (.call callee arguments), machine⟩
        ⟨.evaluating entered.store.size, .block closure.body, entered.enter closure values⟩
        fun value => .value (.value value)
  /-- The argument of a call to `unquote` in quoted syntax. -/
  | unquote {frame : FrameId} {whole : Part} {inner : Expression} {machine : Machine}
      (unquoted : whole.unquoted? = some inner) :
      EntersBody ⟨.quoting frame, whole, machine⟩ ⟨.evaluating frame, .expression inner, machine⟩
        unquotedPart
  /-- The body of a macro that is called, on the quotes of the arguments, whose own macro calls are
  expanded. -/
  | macroCall {macros : FrameId} {callee callee' : Expression}
      {arguments arguments' : List Expression} {closure : Closure}
      {machine middle entered : Machine}
      (called : Process.Ends (fun depth => ((evaluate depth).expander macros).onExpression callee)
        machine (.value callee') middle)
      (completed : Process.Ends
        (fun depth => ((evaluate depth).expander macros).onExpressions arguments) middle
        (.value arguments') entered)
      (named : (Evaluator.macroNamed? macros callee').Reads entered (some closure))
      (arity : closure.parameters.length = arguments'.length) :
      EntersBody ⟨.expanding macros, .expression (.call callee arguments), machine⟩
        ⟨.evaluating entered.store.size, .block closure.body,
          entered.enter closure (arguments'.map .quote)⟩
        expandedPart

/-- Around a body there is what makes the result of its value. -/
theorem EntersBody.exists_body {outer inner : Point} {finish : Value → Ending Product}
    (enters : EntersBody outer inner finish) :
    ∃ body : Process Value, inner.mode.run inner.part = (fun depth => .value <$> body depth) ∧
      ∀ {ending : Ending Product} {after : Machine},
        Process.Ends (fun depth => (body depth).settle >>= fun value => .endAs (finish value))
          inner.machine ending after → outer.Ends ending after := by
  -- Before the body stands what completes, so the outer point goes on as the body does.
  cases enters with
  | @call frame callee arguments closure values machine middle entered plain called completed
      arity =>
      refine ⟨_, rfl, fun {ending after} settled => ?_⟩
      have list : Process.Ends (fun depth => (evaluate depth).list frame (callee :: arguments))
          machine (.value (.function closure :: values)) entered := by
        have both := called.bind (fun value depth =>
          (value :: ·) <$> (evaluate depth).list frame arguments) completed.map
        refine both.congr fun depth => ?_
        simp only [Evaluator.list, bind_pure_comp]
      have applied : Process.Ends (fun depth =>
          Product.value <$> (evaluate depth).applyFirst (.function closure :: values)) entered
          ending after := by
        refine settled.congr fun depth => ?_
        rw [← bind_pure_comp]
        exact Computation.bind_congr_left (Evaluator.apply_closure arity) _
      have both := list.bind (fun values depth =>
        Product.value <$> (evaluate depth).applyFirst values) applied
      refine both.step fun depth => ?_
      rw [← map_bind, ← bind_pure_comp]
      exact Computation.bind_congr_left (Evaluator.call_of_plain plain) _
  | @unquote frame whole inner machine unquoted =>
      refine ⟨_, rfl, fun {ending after} settled => settled.congr fun depth => ?_⟩
      have replaced : ∀ value : Value, (Product.part <$> Part.expression <$>
          Computation.ofExcept value.toSyntax) = .endAs (unquotedPart value) := by
        intro value
        unfold unquotedPart
        cases value.toSyntax <;> rfl
      simp only [Mode.run, Evaluator.onPart_unquoter _ frame unquoted, Evaluator.unquote, map_bind,
        replaced]
  | @macroCall macros callee callee' arguments arguments' closure machine middle entered called
      completed named arity =>
      refine ⟨_, rfl, fun {ending after} settled => ?_⟩
      have replaced : ∀ value : Value, (Product.part <$> Part.expression <$>
          Evaluator.macroSyntax value) = .endAs (expandedPart value) := by
        intro value
        cases value <;> rfl
      have expanded : Process.Ends (fun depth => Product.part <$> Part.expression <$>
          (evaluate depth).expandNode macros (.call callee' arguments')) entered ending after := by
        refine settled.congr fun depth => ?_
        have call : (evaluate depth).expandNode macros (.call callee' arguments') entered =
            (((evaluate depth).block entered.store.size closure.body).settle >>=
              Evaluator.macroSyntax) (entered.enter closure (arguments'.map .quote)) :=
          (Computation.bind_of_value named _).trans (Evaluator.expandCall_closure arity)
        simp only [← replaced, ← map_bind, ← comp_map]
        rw [← bind_pure_comp, ← bind_pure_comp]
        exact Computation.bind_congr_left call _
      have both := called.bind (fun callee depth =>
        ((evaluate depth).expander macros).onExpressions arguments >>= fun arguments =>
          Product.part <$> Part.expression <$>
            (evaluate depth).expandNode macros (.call callee arguments))
        (completed.bind (fun arguments depth => Product.part <$> Part.expression <$>
            (evaluate depth).expandNode macros (.call callee' arguments)) expanded)
      refine both.congr fun depth => ?_
      simp only [Mode.run, Traversal.onPart, Traversal.onExpression, Evaluator.expander, map_bind,
        bind_assoc, pure_bind]

section

variable {outer inner : Point} {after : Machine}

/-- **At the edge of a body a value that is returned is the value of the body.** -/
theorem EntersBody.ends {finish : Value → Ending Product} {value : Value}
    (enters : EntersBody outer inner finish)
    (ends : inner.Ends (.value (.value value)) after ∨ inner.Breaks (.returned value) after) :
    outer.Ends (finish value) after := by
  obtain ⟨body, run, around⟩ := enters.exists_body
  simp only [Point.Ends, Point.Breaks, run] at ends
  -- Ending with the value and returning it cannot be told apart once the body is settled.
  have settled := Process.ends_settle (ends.imp
    (Process.ends_map_iff fun _ _ => Product.value.inj).mp Process.breaks_map_iff.mp)
  exact around (settled.bind (fun value _ => .endAs (finish value))
    (Process.ends_of_forall fun _ => rfl))

/-- An error goes over the edge of a body. -/
theorem EntersBody.fails {finish : Value → Ending Product} {cause : RuntimeError}
    (enters : EntersBody outer inner finish) (fails : inner.Breaks (.failed cause) after) :
    outer.Breaks (.failed cause) after := by
  obtain ⟨body, run, around⟩ := enters.exists_body
  rw [Point.Breaks, Point.Ends, run] at fails
  exact around (Process.breaks_settle (Process.breaks_map_iff.mp fails)).bind

end

/-! ## Through any number of bodies -/

/-- The work at the first point comes to the second one by steps into parts and into bodies. -/
def Surrounds : Point → Point → Prop :=
  ReflTransGen fun outer inner => Enters outer inner ∨ ∃ finish, EntersBody outer inner finish

/-- **An error fails everything around it**, whatever bodies it comes out of, on its own machine. -/
theorem Surrounds.fails {outer inner : Point} {cause : RuntimeError} {after : Machine}
    (surrounds : Surrounds outer inner) (fails : inner.Breaks (.failed cause) after) :
    outer.Breaks (.failed cause) after := by
  induction surrounds with
  | refl => exact fails
  | tail _ enters ih =>
      rcases enters with part | ⟨finish, body⟩
      · exact ih (part.breaks fails)
      · exact ih (body.fails fails)

end MonkeyLang
