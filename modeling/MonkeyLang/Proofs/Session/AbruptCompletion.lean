import MonkeyLang.Proofs.Evaluation.Returning
import MonkeyLang.Proofs.Session.Limits

/-!
# Abrupt completion

The first part of a program that returns or fails is the end of the program, and the
machine that it leaves is the one that the program leaves: what is bound and printed
there comes from the parts completed before it, and from what it did itself.
`abrupt_completion` puts together how far each signal goes. A value that is returned
leaves everything around it up to a call of a function, a call to `unquote` or a macro
call, or up to the top; there it counts as an ordinary value. An error leaves these too,
and only at the top it becomes a value that is shown.

What stands at the top is a program that runs, or a program whose macro calls are
expanded before it runs. An expansion returns nothing: every `return` in it stands in
the body of a macro. Nowhere below the top is an error a value: whatever a session has
read, its frames lead to none.
-/

set_option autoImplicit false

namespace MonkeyLang

/-! ## The top -/

/-- What a program shows that a signal ended. -/
def Signal.shown : Signal → Value
  | .returned value => value
  | .failed cause => .error cause

section

variable {frame macros : FrameId} {program : Program} {machine after : Machine}

/-- A program that breaks shows the value that was returned, or the error. -/
theorem runProgram_of_breaks {signal : Signal}
    (breaks : Point.Breaks ⟨.evaluating frame, .block program, machine⟩ signal after) :
    ∃ depth, ∀ more, depth ≤ more →
      runProgram more frame program machine = some (some signal.shown, after) := by
  obtain ⟨depth, run⟩ := Point.breaks_block_iff.mp breaks
  refine ⟨depth, fun more le => ?_⟩
  have ended : (evaluate more).block frame program machine = some (signal.ending, after) :=
    run more le
  rw [runProgram, ended]
  cases signal <;> rfl

/-- An expansion that breaks fails. -/
theorem expandMacros_of_fails {cause : RuntimeError}
    (fails : Point.Breaks ⟨.expanding macros, .block program, machine⟩ (.failed cause) after) :
    ∃ depth, ∀ more, depth ≤ more →
      expandMacros more macros program machine = some (.failed cause, after) := by
  obtain ⟨depth, run⟩ := Point.breaks_expanding_iff.mp fails
  refine ⟨depth, fun more le => ?_⟩
  exact Computation.map_eq_signal_iff.mp (run more le)

/-- A session shows the error that failed an expansion, and runs nothing. -/
theorem Session.execute_of_fails {session : Session} {kept : Program} {cause : RuntimeError}
    (defined : defineMacros session.macros program session.machine = (kept, machine))
    (fails : Point.Breaks ⟨.expanding session.macros, .block kept, machine⟩ (.failed cause) after) :
    ∃ depth, ∀ more, depth ≤ more →
      session.execute more program = some (.value (.error cause), { session with machine := after })
    := by
  obtain ⟨depth, run⟩ := expandMacros_of_fails fails
  refine ⟨depth, fun more le => ?_⟩
  simp only [Session.execute, defined, run more le]

end

/-! ## How far signals go -/

/-- **Abrupt completion.** When everything before a part has completed and the part breaks, what it
stands in breaks with the same signal, on the machine that the part left.

A value is being returned exactly where steps into parts lead to a `return` statement. At the edge
of a body that is called, unquoted or run as a macro it is the value of the body, as at the top;
nothing else makes it a value. An error leaves bodies as well. At the top it is shown, by the
program that ran or by the session whose expansion it failed, and only there it is a value. -/
theorem abrupt_completion :
    (∀ {outer inner : Point} {signal : Signal} {after : Machine},
      Reaches outer inner → inner.Breaks signal after → outer.Breaks signal after) ∧
    (∀ {point : Point} {value : Value} {after : Machine}, point.Breaks (.returned value) after ↔
      ∃ origin, Reaches point origin ∧ origin.Returns value after) ∧
    (∀ {outer body inner : Point} {finish : Value → Ending Product} {value : Value}
      {after : Machine}, EntersBody outer body finish → Reaches body inner →
        inner.Breaks (.returned value) after → outer.Ends (finish value) after) ∧
    (∀ {outer inner : Point} {cause : RuntimeError} {after : Machine},
      Surrounds outer inner → inner.Breaks (.failed cause) after →
        outer.Breaks (.failed cause) after) ∧
    (∀ {frame : FrameId} {program : Program} {machine after : Machine} {inner : Point}
      {value : Value}, Reaches ⟨.evaluating frame, .block program, machine⟩ inner →
        inner.Breaks (.returned value) after → ∃ depth, ∀ more, depth ≤ more →
          runProgram more frame program machine = some (some value, after)) ∧
    (∀ {frame : FrameId} {program : Program} {machine after : Machine} {inner : Point}
      {cause : RuntimeError}, Surrounds ⟨.evaluating frame, .block program, machine⟩ inner →
        inner.Breaks (.failed cause) after → ∃ depth, ∀ more, depth ≤ more →
          runProgram more frame program machine = some (some (.error cause), after)) ∧
    (∀ {session : Session} {program kept : Program} {machine after : Machine} {inner : Point}
      {cause : RuntimeError},
      defineMacros session.macros program session.machine = (kept, machine) →
        Surrounds ⟨.expanding session.macros, .block kept, machine⟩ inner →
          inner.Breaks (.failed cause) after → ∃ depth, ∀ more, depth ≤ more →
            expandMacros more session.macros kept machine = some (.failed cause, after) ∧
              session.execute more program =
                some (.value (.error cause), { session with machine := after })) ∧
    ∀ {texts : List String} {session : Session}, Session.initial.Reads texts session →
      (∀ {id : FrameId} {part : Value}, session.machine.store.Reaches id part →
        part.isError = false) ∧
      ∀ {depth : Nat} {text : String} {shown part : Value} {after : Session},
        session.read depth text = some (.value shown, after) →
          after.machine.store.Leads shown part → part.isError = true → part = shown := by
  refine ⟨Reaches.breaks, Point.breaks_returned_iff, ?_, Surrounds.fails, ?_, ?_, ?_,
    Session.errors_shown⟩
  · intro outer body inner finish value after enters reaches breaks
    exact enters.ends (.inr (reaches.breaks breaks))
  · intro frame program machine after inner value reaches breaks
    exact runProgram_of_breaks (reaches.breaks breaks)
  · intro frame program machine after inner cause surrounds fails
    exact runProgram_of_breaks (surrounds.fails fails)
  · intro session program kept machine after inner cause defined surrounds fails
    obtain ⟨depth, expansion⟩ := expandMacros_of_fails (surrounds.fails fails)
    obtain ⟨depth', execution⟩ := Session.execute_of_fails defined (surrounds.fails fails)
    refine ⟨max depth depth', fun more le => ?_⟩
    have le := Nat.max_le.mp le
    exact ⟨expansion more le.1, execution more le.2⟩

/-- `puts(1); [2, if (true) \x7b return 3; \x7d, puts(4)]` -/
def returningElement : Program :=
  [.evaluate (.call (.identifier "puts") [.integer 1]),
    .evaluate (.array [.integer 2, .conditional (.boolean true) [.ret (.integer 3)] none,
      .call (.identifier "puts") [.integer 4]])]

/-- `-true` -/
def failingBody : Block :=
  [.evaluate (.unary .negate (.boolean true))]

/-- `quote(unquote(fn() \x7b -true \x7d()))` -/
def failingQuote : Expression :=
  .call (.identifier "quote")
    [.call (.identifier "unquote") [.call (.function [] failingBody) []]]

/-- A `return` in an element leaves the array, and what was printed before it stays printed; as the
body of a function it gives the value of the call. An error in a function that is called in a quote
fails the program, and one in a macro the expansion; on its own it is what the text shows. -/
theorem abrupt_completion_everywhere :
    let machine := Session.initial.machine
    let cause := RuntimeError.unaryUndefined .negate .boolean
    (∃ depth after, runProgram depth 0 returningElement machine = some (some (.integer 3), after) ∧
      after.printed = "1\n") ∧
    (∃ after, Point.Ends ⟨.evaluating 0, .expression (.call (.function [] [.ret (.integer 3)]) []),
      machine⟩ (.value (.value (.integer 3))) after) ∧
    (∃ depth after, runProgram depth 0 [.evaluate failingQuote] machine =
      some (some (.error cause), after)) ∧
    (∃ depth after, Session.initial.execute depth
      [.bind "m" (.macroLiteral [] failingBody), .evaluate (.call (.identifier "m") [])] =
        some (.value (.error cause), after)) ∧
    ∃ after, Session.initial.read 2 (Program.render failingBody) =
      some (.value (.error cause), after) ∧
        ∀ part, after.machine.store.Leads (.error cause) part → part.isError = true →
          part = .error cause := by
  intro machine cause
  have returns : ∀ frame start, Point.Breaks ⟨.evaluating frame, .block [.ret (.integer 3)], start⟩
      (.returned (.integer 3)) start := fun frame start =>
    Point.breaks_block_iff.mpr (ends_block (rfl : (evaluate 1).block _ _ _ = _))
  have fails : ∀ frame start, Point.Breaks ⟨.evaluating frame, .block failingBody, start⟩
      (.failed cause) start := fun frame start =>
    Point.breaks_block_iff.mpr (ends_block (rfl : (evaluate 2).block _ _ _ = _))
  refine ⟨?_, ?_, ?_, ?_, ?_⟩
  · let printed : Machine := { machine with printed := "1\n" }
    have prints : (evaluate 2).block 0 (returningElement.take 1) machine =
        some (.value .null, printed) := by with_unfolding_all rfl
    have reaches : Reaches ⟨.evaluating 0, .block returningElement, machine⟩
        ⟨.evaluating 0, .block [.ret (.integer 3)], printed⟩ := by
      refine .head (.statement (rfl : _ = returningElement.take 1 ++ _) (ends_block prints)) ?_
      refine .head (.operand rfl (rfl : _ = [Expression.integer 2] ++ _)
        (ends_list (rfl : (evaluate 1).list _ _ _ = _))) ?_
      refine .single (.branch (ends_expression
        (rfl : evaluate 1 0 (.boolean true) printed = some (.value (.boolean true), printed))) ?_)
      rfl
    obtain ⟨depth, shows⟩ := abrupt_completion.2.2.2.2.1 reaches (returns 0 printed)
    exact ⟨depth, printed, shows depth (Nat.le_refl depth), rfl⟩
  · have plain : (Evaluator.meansQuote 0 (.function [] [.ret (.integer 3)])).Reads machine false :=
      Computation.reads_pure false
    have call := EntersBody.call plain (ends_expression (rfl : evaluate 1 _ _ _ = _))
      (ends_list (rfl : (evaluate 0).list _ [] _ = _)) rfl
    exact ⟨_, abrupt_completion.2.2.1 call .refl (returns 2 _)⟩
  · have quotes : (Evaluator.meansQuote 0 (.identifier "quote")).Reads machine true := by
      unfold Computation.Reads
      with_unfolding_all rfl
    have plain : (Evaluator.meansQuote 0 (.function [] failingBody)).Reads machine false :=
      Computation.reads_pure false
    have call := EntersBody.call plain (ends_expression (rfl : evaluate 1 _ _ _ = _))
      (ends_list (rfl : (evaluate 0).list _ [] _ = _)) rfl
    have surrounds : Surrounds ⟨.evaluating 0, .block [.evaluate failingQuote], machine⟩
        ⟨.evaluating 2, .block failingBody,
          Machine.enter { machine with stamp := 1 } ⟨[], failingBody, 0, 0⟩ []⟩ := by
      refine .head (.inl (.statement (rfl : _ = [] ++ _)
        (ends_block (rfl : (evaluate 0).block _ _ _ = _)))) ?_
      refine .head (.inl (.quoted quotes)) ?_
      exact .head (.inr ⟨_, .unquote rfl⟩) (.single (.inr ⟨_, call⟩))
    obtain ⟨depth, shows⟩ := abrupt_completion.2.2.2.2.2.1 surrounds (fails 2 _)
    exact ⟨depth, _, shows depth (Nat.le_refl depth)⟩
  · let defined := machine.defineMacro 1 "m" [] failingBody
    have named : (Evaluator.macroNamed? 1 (.identifier "m")).Reads defined
        (some ⟨[], failingBody, 1, 0⟩) := by
      unfold Computation.Reads
      with_unfolding_all rfl
    have callee : Process.Ends (fun depth =>
        ((evaluate depth).expander 1).onExpression (.identifier "m")) defined
        (.value (.identifier "m")) defined := Process.ends_of_forall fun _ => rfl
    have arguments : Process.Ends (fun depth => ((evaluate depth).expander 1).onExpressions [])
        defined (.value []) defined := Process.ends_of_forall fun _ => rfl
    have call := EntersBody.macroCall callee arguments named rfl
    have surrounds : Surrounds
        ⟨.expanding 1, .block [.evaluate (.call (.identifier "m") [])], defined⟩
        ⟨.evaluating 2, .block failingBody, defined.enter ⟨[], failingBody, 1, 0⟩ []⟩ :=
      .head (.inl (.expandedPart (rfl : _ = [] ++ _) (Process.ends_of_forall fun _ => rfl)))
        (.single (.inr ⟨_, call⟩))
    have defines : defineMacros 1
        [.bind "m" (.macroLiteral [] failingBody), .evaluate (.call (.identifier "m") [])] machine =
          ([.evaluate (.call (.identifier "m") [])], defined) := rfl
    obtain ⟨depth, shows⟩ :=
      @abrupt_completion.2.2.2.2.2.2.1 Session.initial _ _ _ _ _ _ defines surrounds (fails 2 _)
    exact ⟨depth, _, (shows depth (Nat.le_refl depth)).2⟩
  · have renderable : Program.Renderable failingBody := ⟨trivial, trivial⟩
    obtain ⟨after, executes⟩ : ∃ after, Session.initial.execute 2 failingBody =
        some (.value (.error cause), after) := ⟨_, rfl⟩
    have reads := (Session.read_render 2 Session.initial renderable).trans executes
    exact ⟨after, reads, fun part leads isError =>
      (abrupt_completion.2.2.2.2.2.2.2 (.nothing Session.initial)).2 reads leads isError⟩

end MonkeyLang
