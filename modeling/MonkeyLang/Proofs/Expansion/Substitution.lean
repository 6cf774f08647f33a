import MonkeyLang.Expansion
import MonkeyLang.Proofs.Evaluation.FrameEffects
import MonkeyLang.Proofs.Expansion.Template

/-!
# Expanding templates is substitution

Macro calls are expanded by running the body of the macro. When all macros are
templates, the expansion of a program is the rewriting by these templates
(`expandMacros_templates`): it has the same result or the same error, it prints
nothing, and it changes no frame that was there before.

There are two traversals to follow. Inside a quote the unquoter reads each
parameter from the frame of the macro and changes nothing, so it fills the holes
(`Evaluator.ReadsQuotes.onExpression`). The expander opens a frame for each macro
call, so from one call to the next the machine grows; what the macros are is seen
the same from every machine that only grew.
-/

set_option autoImplicit false

namespace MonkeyLang

/-! ## Filling holes by unquoting -/

section Unquoting

variable {evaluator : Evaluator} {frame : FrameId} {machine : Machine} {names : List String}
  {filling : Filling}

/-- Each of the names has a quote for a value, and what it quotes is put in for the name. -/
def Evaluator.ReadsQuotes (evaluator : Evaluator) (frame : FrameId) (machine : Machine)
    (names : List String) (filling : Filling) : Prop :=
  ∀ name ∈ names, ∃ argument, filling name = some argument ∧
    (evaluator frame (.identifier name)).Reads machine (.quote argument)

namespace Evaluator

open MonkeyLang.Computation

/-- At a call the unquoter fills the call or walks into it. -/
theorem ReadsQuotes.onCall (quotes : evaluator.ReadsQuotes frame machine names filling)
    {callee : Expression} {arguments : List Expression}
    (holes : (Expression.call callee arguments).HolesIn names)
    (walk : callee.HolesIn names → ListHolesIn names arguments →
      ((evaluator.unquoter frame).onExpression callee).Reads machine (callee.fill filling) ∧
      ((evaluator.unquoter frame).onExpressions arguments).Reads machine
        (fillList filling arguments)) :
    ((evaluator.unquoter frame).onExpression (.call callee arguments)).Reads machine
      ((Expression.call callee arguments).fill filling) := by
  rw [Expression.HolesIn] at holes
  rw [Expression.fill, Expression.hole?, Traversal.onExpression]
  dsimp only [unquoter]
  generalize (Expression.call callee arguments).argumentsOfCallTo? "unquote" = found at holes ⊢
  rcases found with _ | ⟨_ | ⟨argument, _ | _⟩⟩
  case some.cons.nil =>
    obtain ⟨name, mem, rfl⟩ := holes
    obtain ⟨argument, filled, reads⟩ := quotes name mem
    simp only [Option.bind_some, filled]
    exact reads.settle.bind (reads_pure argument)
  all_goals
    obtain ⟨inCallee, inArguments⟩ := walk holes.1 holes.2
    exact inCallee.bind (inArguments.bind (reads_pure _))

mutual
theorem ReadsQuotes.onStatement (quotes : evaluator.ReadsQuotes frame machine names filling) :
    ∀ {statement : Statement}, statement.HolesIn names →
      ((evaluator.unquoter frame).onStatement statement).Reads machine (statement.fill filling)
  | .bind _ _, holes => (quotes.onExpression holes).bind (reads_pure _)
  | .ret _, holes => (quotes.onExpression holes).bind (reads_pure _)
  | .evaluate _, holes => (quotes.onExpression holes).bind (reads_pure _)
  | .group _, holes => (quotes.onStatements holes).bind (reads_pure _)

theorem ReadsQuotes.onStatements (quotes : evaluator.ReadsQuotes frame machine names filling) :
    ∀ {body : List Statement}, StatementsHolesIn names body →
      ((evaluator.unquoter frame).onStatements body).Reads machine (fillStatements filling body)
  | [], _ => reads_pure []
  | _ :: _, holes =>
    (quotes.onStatement holes.1).bind ((quotes.onStatements holes.2).bind (reads_pure _))

/-- **The unquoter fills the holes.** -/
theorem ReadsQuotes.onExpression (quotes : evaluator.ReadsQuotes frame machine names filling) :
    ∀ {expression : Expression}, expression.HolesIn names →
      ((evaluator.unquoter frame).onExpression expression).Reads machine (expression.fill filling)
  | .identifier _, _ | .integer _, _ | .string _, _ | .boolean _, _ => rfl
  | .unary _ operand, holes =>
    have inner : operand.HolesIn names := holes
    (quotes.onExpression inner).bind (reads_pure _)
  | .binary _ _ _, holes =>
    (quotes.onExpression holes.1).bind ((quotes.onExpression holes.2).bind (reads_pure _))
  | .conditional _ _ none, holes =>
    (quotes.onExpression holes.1).bind ((quotes.onStatements holes.2).bind (reads_pure _))
  | .conditional _ _ (some _), holes =>
    (quotes.onExpression holes.1).bind ((quotes.onStatements holes.2.1).bind
      ((quotes.onStatements holes.2.2).bind (reads_pure _)))
  | .function _ body, holes =>
    have inner : StatementsHolesIn names body := holes
    (quotes.onStatements inner).bind (reads_pure _)
  | .call _ _, holes =>
    quotes.onCall holes fun inCallee inArguments =>
      ⟨quotes.onExpression inCallee, quotes.onExpressions inArguments⟩
  | .array elements, holes =>
    have inner : ListHolesIn names elements := holes
    (quotes.onExpressions inner).bind (reads_pure _)
  | .index _ _, holes =>
    (quotes.onExpression holes.1).bind ((quotes.onExpression holes.2).bind (reads_pure _))
  | .hash pairs, holes =>
    have inner : PairsHolesIn names pairs := holes
    (quotes.onPairs inner).bind (reads_pure _)
  | .macroLiteral _ body, holes =>
    have inner : StatementsHolesIn names body := holes
    (quotes.onStatements inner).bind (reads_pure _)

theorem ReadsQuotes.onExpressions (quotes : evaluator.ReadsQuotes frame machine names filling) :
    ∀ {list : List Expression}, ListHolesIn names list →
      ((evaluator.unquoter frame).onExpressions list).Reads machine (fillList filling list)
  | [], _ => reads_pure []
  | _ :: _, holes =>
    (quotes.onExpression holes.1).bind ((quotes.onExpressions holes.2).bind (reads_pure _))

theorem ReadsQuotes.onPairs (quotes : evaluator.ReadsQuotes frame machine names filling) :
    ∀ {pairs : List (Expression × Expression)}, PairsHolesIn names pairs →
      ((evaluator.unquoter frame).onPairs pairs).Reads machine (fillPairs filling pairs)
  | [], _ => reads_pure []
  | (_, _) :: _, holes =>
    (quotes.onExpression holes.1).bind ((quotes.onExpression holes.2.1).bind
      ((quotes.onPairs holes.2.2).bind (reads_pure _)))
end

end Evaluator

end Unquoting

/-! ## One macro call -/

/-- Names bound to the quotes of as many expressions have these for values. -/
theorem Computation.bindNames_quotes {frame : FrameId} :
    ∀ {names : List String} {arguments : List Expression} {machine : Machine},
      names.Nodup → names.length = arguments.length → frame < machine.store.size →
      ∃ after bound,
        Computation.bindNames frame names (arguments.map .quote) machine =
          some (.value (), after) ∧
        after.stamp = machine.stamp ∧ after.printed = machine.printed ∧
        after.store.frame? frame = some bound ∧
        ∀ name ∈ names, ∃ argument, (names.zip arguments).lookup name = some argument ∧
          bound.bindings.find? name = some (.quote argument)
  | [], [], machine, _, _, inside => by
    obtain ⟨bound, present⟩ := Option.isSome_iff_exists.mp (Store.frame?_isSome.mpr inside)
    exact ⟨machine, bound, rfl, rfl, rfl, present, by rintro _ ⟨⟩⟩
  | first :: names, argument :: arguments, machine, distinct, lengths, inside => by
    rw [List.nodup_cons] at distinct
    have still : frame < (machine.store.bind frame first (.quote argument)).size := by
      simpa using inside
    obtain ⟨after, bound, run, stamp, printed, present, binds⟩ :=
      @bindNames_quotes frame names arguments
        { machine with store := machine.store.bind frame first (.quote argument) }
        distinct.2 (Nat.succ.inj lengths) still
    refine ⟨after, bound, run, stamp, printed, present, ?_⟩
    intro name mem
    rw [List.zip_cons_cons, List.lookup_cons]
    by_cases same : name = first
    · -- The names after the first one are others, so its value stays.
      subst same
      refine ⟨argument, by rw [beq_self_eq_true], ?_⟩
      obtain ⟨old, was⟩ := Option.isSome_iff_exists.mp (Store.frame?_isSome.mpr inside)
      have changes := confined_bindNames (List.Subset.refl names) _ _ _ _ run
      obtain ⟨new, now, kept⟩ := changes.same (old.bind name (.quote argument)) (by simp [was])
      cases present.symm.trans now
      rw [kept.bindings name distinct.1]
      exact Table.find?_set_self name (.quote argument) old.bindings
    · rw [beq_false_of_ne same]
      exact binds name ((List.mem_cons.mp mem).resolve_left same)
  | [], _ :: _, _, _, lengths, _ => nomatch lengths
  | _ :: _, [], _, _, lengths, _ => nomatch lengths

section Templates

open MonkeyLang.Computation MonkeyLang.Evaluator

variable {frame macros : FrameId} {start machine : Machine} {filling : Filling}
  {closure : Closure} {quoted : Expression} (depth : Nat)

/-- Where `quote` means quoting and the parameters have quotes for values, the body of a template
gives the quote of the filled syntax. -/
theorem reads_body {parameters : List String} (holes : quoted.HolesIn parameters)
    (unbound : machine.store.lookup? frame "quote" = none)
    (bound : ∀ name ∈ parameters, ∃ argument, filling name = some argument ∧
      machine.store.lookup? frame name = some (.quote argument)) :
    ((evaluate (depth + 2)).block frame
      [.evaluate (.call (.identifier "quote") [quoted])]).settle.Reads machine
        (.quote (quoted.fill filling)) := by
  have quotes : (evaluate (depth + 1)).ReadsQuotes frame machine parameters filling := by
    intro name mem
    obtain ⟨argument, filled, looked⟩ := bound name mem
    refine ⟨argument, filled, ?_⟩
    have found := reads_lookup? machine frame name
    rw [looked] at found
    exact found.bind (reads_pure _)
  have means : (meansQuote frame (.identifier "quote")).Reads machine true := by
    have found := reads_lookup? machine frame "quote"
    rw [unbound] at found
    exact found.bind (reads_pure _)
  have quoting : ((evaluate (depth + 1)).quote frame [quoted]).Reads machine
      (.quote (quoted.fill filling)) :=
    (quotes.onExpression holes).bind (reads_pure _)
  have evaluates : (evaluate (depth + 2) frame (.call (.identifier "quote") [quoted])).Reads machine
      (.quote (quoted.fill filling)) := means.bind quoting
  have runs : ((evaluate (depth + 2)).block frame
      [.evaluate (.call (.identifier "quote") [quoted])]).Reads machine
        (.quote (quoted.fill filling)) := evaluates.bind (reads_pure _)
  exact runs.settle

/-- In the frame of a call of a template `quote` means quoting, and each parameter has the quote of
its argument for a value. -/
theorem enters (template : closure.IsTemplate quoted start.store) (grown : start.Grows machine)
    {arguments : List Expression} (lengths : closure.parameters.length = arguments.length) :
    ∃ after,
      bindNames machine.store.size closure.parameters (arguments.map .quote)
        { machine with store := machine.store.openFrame (some closure.frame) } =
          some (.value (), after) ∧
      machine.Grows after ∧ after.store.lookup? machine.store.size "quote" = none ∧
      ∀ name ∈ closure.parameters, ∃ argument,
        (closure.parameters.zip arguments).lookup name = some argument ∧
        after.store.lookup? machine.store.size name = some (.quote argument) := by
  have opens := Store.Extends.openFrame machine.store (some closure.frame)
  have inside : machine.store.size < (machine.store.openFrame (some closure.frame)).size := by
    simp
  obtain ⟨after, bound, run, stamp, printed, present, values⟩ :=
    @bindNames_quotes machine.store.size closure.parameters arguments
      { machine with store := machine.store.openFrame (some closure.frame) }
      template.distinct lengths inside
  have changes := confined_bindNames (List.Subset.refl closure.parameters) _ _ _ _ run
  have grows : machine.Grows after :=
    ⟨opens.trans_changesOnly changes (Nat.le_refl _), stamp, printed⟩
  refine ⟨after, run, grows, ?_, ?_⟩
  · -- Neither the new frame nor the frame of the macro around it binds `quote`.
    obtain ⟨new, now, kept⟩ := changes.same _ (Store.frame?_openFrame_self _ _)
    have opened : closure.frame < machine.store.size :=
      Nat.lt_of_lt_of_le template.opened grown.store.size_le
    have outer : new.parent = some closure.frame := by
      rw [kept.parent]
      simp [Store.newFrame, opened]
    rw [Store.lookup?_of_parent now (kept.bindings "quote" template.unnamed) outer,
      (grown.trans grows).store.lookup?_eq "quote" template.opened]
    exact template.unbound
  · intro name mem
    obtain ⟨argument, looked, found⟩ := values name mem
    exact ⟨argument, looked, Store.lookup?_of_bound present found⟩

/-- **A call of a template gives the template with the arguments put in.** -/
theorem expandCall_gives (template : closure.IsTemplate quoted start.store)
    (arguments : List Expression) :
    ((evaluate (depth + 2)).expandCall closure arguments).Gives start
      (if closure.parameters.length = arguments.length then
        return Template.instantiate ⟨closure.parameters, quoted⟩ arguments
      else
        throw (.arity closure.parameters.length arguments.length)) := by
  rw [expandCall]
  split
  · next lengths =>
    intro machine grown
    obtain ⟨after, run, grows, unbound, bound⟩ := enters template grown lengths
    have body := reads_body depth template.holes unbound bound
    rw [← template.body] at body
    refine ⟨after, ?_, grows⟩
    refine (bind_of_value rfl _).trans ?_
    refine (bind_of_value run _).trans ?_
    exact bind_of_value body _
  · exact gives_fail _

/-! ## Whole programs -/

/-- At a call the expander does what the rewriting does. -/
theorem expandNode_gives (only : start.store.OnlyTemplates macros) (callee : Expression)
    (arguments : List Expression) :
    ((evaluate (depth + 2)).expandNode macros (.call callee arguments)).Gives start
      ((start.store.templates macros).rewriteCall callee arguments) := by
  cases callee with
  | identifier name =>
      intro machine grown
      have looks := reads_lookup? machine macros name
      rw [grown.store.lookup?_eq name only.opened] at looks
      by_cases bound : ∃ closure, start.store.lookup? macros name = some (.macroValue closure)
      · obtain ⟨closure, found⟩ := bound
        obtain ⟨quoted, template⟩ := only.isTemplate name closure found
        rw [found] at looks
        have named : (macroNamed? macros (.identifier name)).Reads machine (some closure) :=
          looks.bind (reads_pure _)
        obtain ⟨after, run, grows⟩ := expandCall_gives depth template arguments machine grown
        refine ⟨after, (bind_of_value named _).trans ?_, grows⟩
        simp only [Templates.rewriteCall, Templates.named?, Store.templates, found,
          template.ofClosure?_eq]
        exact run
      · have named : (macroNamed? macros (.identifier name)).Reads machine none := by
          refine looks.bind ?_
          split
          · next closure found => exact absurd ⟨closure, found⟩ bound
          · exact reads_pure _
        refine ⟨machine, (bind_of_value named _).trans ?_, .refl machine⟩
        have unnamed : start.store.templates macros name = none := by
          unfold Store.templates
          split
          · next closure found => exact absurd ⟨closure, found⟩ bound
          · rfl
        rw [Templates.rewriteCall, Templates.named?, unnamed]
        rfl
  | _ => exact gives_pure _

mutual
theorem onStatement_gives (only : start.store.OnlyTemplates macros) : ∀ statement : Statement,
    (((evaluate (depth + 2)).expander macros).onStatement statement).Gives start
      ((start.store.templates macros).rewriteStatement statement)
  | .bind _ value => (onExpression_gives only value).bind fun _ => gives_pure _
  | .ret value => (onExpression_gives only value).bind fun _ => gives_pure _
  | .evaluate expression => (onExpression_gives only expression).bind fun _ => gives_pure _
  | .group body => (onStatements_gives only body).bind fun _ => gives_pure _

theorem onStatements_gives (only : start.store.OnlyTemplates macros) : ∀ body : List Statement,
    (((evaluate (depth + 2)).expander macros).onStatements body).Gives start
      ((start.store.templates macros).rewriteStatements body)
  | [] => gives_pure []
  | first :: rest =>
    (onStatement_gives only first).bind fun _ =>
      (onStatements_gives only rest).bind fun _ => gives_pure _

/-- The expander does what the rewriting does. -/
theorem onExpression_gives (only : start.store.OnlyTemplates macros) :
    ∀ expression : Expression,
      (((evaluate (depth + 2)).expander macros).onExpression expression).Gives start
        ((start.store.templates macros).rewrite expression)
  | .identifier _ | .integer _ | .string _ | .boolean _ => gives_pure _
  | .unary operator operand => by
    simp only [Traversal.onExpression, expander, bind_assoc, pure_bind]
    exact (onExpression_gives only operand).bind fun _ => gives_pure _
  | .binary operator left right => by
    simp only [Traversal.onExpression, expander, bind_assoc, pure_bind]
    exact (onExpression_gives only left).bind fun _ =>
      (onExpression_gives only right).bind fun _ => gives_pure _
  | .conditional condition consequence none => by
    simp only [Traversal.onExpression, expander, bind_assoc, pure_bind]
    exact (onExpression_gives only condition).bind fun _ =>
      (onStatements_gives only consequence).bind fun _ => gives_pure _
  | .conditional condition consequence (some alternative) => by
    simp only [Traversal.onExpression, expander, bind_assoc, pure_bind]
    exact (onExpression_gives only condition).bind fun _ =>
      (onStatements_gives only consequence).bind fun _ =>
        (onStatements_gives only alternative).bind fun _ => gives_pure _
  | .function parameters body => by
    simp only [Traversal.onExpression, expander, bind_assoc, pure_bind]
    exact (onStatements_gives only body).bind fun _ => gives_pure _
  | .call callee arguments => by
    simp only [Traversal.onExpression, expander, bind_assoc, pure_bind]
    exact (onExpression_gives only callee).bind fun callee =>
      (onExpressions_gives only arguments).bind fun arguments =>
        expandNode_gives depth only callee arguments
  | .array elements => by
    simp only [Traversal.onExpression, expander, bind_assoc, pure_bind]
    exact (onExpressions_gives only elements).bind fun _ => gives_pure _
  | .index collection position => by
    simp only [Traversal.onExpression, expander, bind_assoc, pure_bind]
    exact (onExpression_gives only collection).bind fun _ =>
      (onExpression_gives only position).bind fun _ => gives_pure _
  | .hash pairs => by
    simp only [Traversal.onExpression, expander, bind_assoc, pure_bind]
    exact (onPairs_gives only pairs).bind fun _ => gives_pure _
  | .macroLiteral parameters body => by
    simp only [Traversal.onExpression, expander, bind_assoc, pure_bind]
    exact (onStatements_gives only body).bind fun _ => gives_pure _

theorem onExpressions_gives (only : start.store.OnlyTemplates macros) :
    ∀ list : List Expression,
      (((evaluate (depth + 2)).expander macros).onExpressions list).Gives start
        ((start.store.templates macros).rewriteList list)
  | [] => gives_pure []
  | first :: rest =>
    (onExpression_gives only first).bind fun _ =>
      (onExpressions_gives only rest).bind fun _ => gives_pure _

theorem onPairs_gives (only : start.store.OnlyTemplates macros) :
    ∀ pairs : List (Expression × Expression),
      (((evaluate (depth + 2)).expander macros).onPairs pairs).Gives start
        ((start.store.templates macros).rewritePairs pairs)
  | [] => gives_pure []
  | (key, value) :: rest =>
    (onExpression_gives only key).bind fun _ =>
      (onExpression_gives only value).bind fun _ =>
        (onPairs_gives only rest).bind fun _ => gives_pure _
end

end Templates

/-- **Expanding templates is substitution.** When every macro is a template, the expansion of a
program is its rewriting by the templates, with the same result or the same error. Nothing is
printed, no closure is made, and every frame that was there before is as it was. The body of a
template nests two evaluations, so every depth from two on is enough. -/
theorem expandMacros_templates (depth : Nat) (macros : FrameId) (program : Program)
    (machine : Machine) (only : machine.store.OnlyTemplates macros) :
    ∃ after, expandMacros (depth + 2) macros program machine =
        some (.ofExcept ((machine.store.templates macros).rewriteStatements program), after) ∧
      machine.Grows after :=
  onStatements_gives depth only program machine (.refl machine)

/-- The macro `macro(a) { quote(unquote(a) + unquote(a)) }`. -/
def doubling : Closure where
  parameters := ["a"]
  body := [.evaluate (.call (.identifier "quote") [.binary .add
    (.call (.identifier "unquote") [.identifier "a"])
    (.call (.identifier "unquote") [.identifier "a"])])]
  frame := 0
  stamp := 0

/-- One frame with this macro bound to `twice`. -/
def doublingStore : Store :=
  (Store.empty.openFrame none).bind 0 "twice" (.macroValue doubling)

theorem lookup?_doublingStore (name : String) : doublingStore.lookup? 0 name =
    if name = "twice" then some (.macroValue doubling) else none := by
  have present : doublingStore.frame? 0 = some ⟨[("twice", .macroValue doubling)], none⟩ := rfl
  by_cases same : name = "twice"
  · rw [if_pos same, Store.lookup?_of_bound present]
    rw [Table.find?, if_pos same]
  · rw [if_neg same, Store.lookup?_of_outermost present _ rfl]
    rw [Table.find?, if_neg same]
    rfl

theorem onlyTemplates_doublingStore : doublingStore.OnlyTemplates 0 := by
  refine ⟨by decide, ?_⟩
  intro name closure found
  rw [lookup?_doublingStore] at found
  split at found
  · cases found
    have hole : ∃ name ∈ ["a"], Expression.identifier "a" = .identifier name :=
      ⟨"a", List.mem_cons_self, rfl⟩
    exact ⟨_, rfl, by decide, ⟨hole, hole⟩, by decide, by decide, lookup?_doublingStore "quote"⟩
  · cases found

/-- `twice(twice(1))` becomes `((1 + 1) + (1 + 1))`, and `twice()` is an error. -/
theorem expandMacros_doubling :
    (∃ after, expandMacros 2 0
        [.evaluate (.call (.identifier "twice") [.call (.identifier "twice") [.integer 1]])]
        ⟨doublingStore, 1, ""⟩ =
      some (.value [.evaluate (.binary .add (.binary .add (.integer 1) (.integer 1))
        (.binary .add (.integer 1) (.integer 1)))], after) ∧ after.printed = "") ∧
    (∃ after, expandMacros 2 0 [.evaluate (.call (.identifier "twice") [])]
        ⟨doublingStore, 1, ""⟩ = some (.failed (.arity 1 0), after) ∧ after.printed = "") := by
  have named : doublingStore.templates 0 "twice" = some ⟨["a"], .binary .add
      (.call (.identifier "unquote") [.identifier "a"])
      (.call (.identifier "unquote") [.identifier "a"])⟩ := by
    rw [Store.templates, lookup?_doublingStore]
    rfl
  have twice : (doublingStore.templates 0).rewriteStatements
      [.evaluate (.call (.identifier "twice") [.call (.identifier "twice") [.integer 1]])] =
        .ok [.evaluate (.binary .add (.binary .add (.integer 1) (.integer 1))
          (.binary .add (.integer 1) (.integer 1)))] := by
    simp only [Templates.rewriteStatements, Templates.rewriteStatement, Templates.rewrite,
      Templates.rewriteList, Templates.rewriteCall, Templates.named?, pure_bind, bind_assoc, named]
    rfl
  have none : (doublingStore.templates 0).rewriteStatements
      [.evaluate (.call (.identifier "twice") [])] = .error (.arity 1 0) := by
    simp only [Templates.rewriteStatements, Templates.rewriteStatement, Templates.rewrite,
      Templates.rewriteList, Templates.rewriteCall, Templates.named?, pure_bind, named]
    rfl
  constructor
  · obtain ⟨after, expands, grows⟩ := expandMacros_templates 0 0
      [.evaluate (.call (.identifier "twice") [.call (.identifier "twice") [.integer 1]])]
      ⟨doublingStore, 1, ""⟩ onlyTemplates_doublingStore
    rw [twice] at expands
    exact ⟨after, expands, grows.printed⟩
  · obtain ⟨after, expands, grows⟩ := expandMacros_templates 0 0
      [.evaluate (.call (.identifier "twice") [])] ⟨doublingStore, 1, ""⟩
      onlyTemplates_doublingStore
    rw [none] at expands
    exact ⟨after, expands, grows.printed⟩

end MonkeyLang
