import MonkeyLang.Proofs.Evaluation.Reachability
import MonkeyLang.Proofs.Parsing.Renderability
import MonkeyLang.Proofs.Rendering.RoundTrip
import MonkeyLang.Proofs.Session.Limits

/-!
# Syntax held at run time reads back

Functions, macros and quotes hold syntax, and quotes and macros build syntax that
no text was read as. Whatever a session has read, that syntax is renderable, so
its text reads back as the same tree (`held_syntax_readable`). It starts with what
the parser gives, which is renderable; evaluation and expansion keep to the class
of renderable trees, because a number or a boolean put in for a call of `unquote`
can always be written down, and so can a quoted tree.
-/

set_option autoImplicit false

namespace MonkeyLang

/-! ## The class of renderable trees -/

/-- The renderable trees are a class of trees. -/
def SyntaxClass.renderable : SyntaxClass where
  name := IsName
  grouped := False
  statement := Statement.Renderable
  statements := StatementsRenderable
  expression := Expression.Renderable
  expressions := ExpressionsRenderable
  pairs := PairsRenderable
  bind_iff _ _ := Iff.rfl
  ret_iff _ := Iff.rfl
  evaluate_iff _ := Iff.rfl
  group_iff _ := ⟨False.elim, And.left⟩
  statements_nil := trivial
  statements_cons _ _ := Iff.rfl
  identifier_iff _ := Iff.rfl
  integer _ := trivial
  boolean _ := trivial
  unary_iff _ _ := Iff.rfl
  binary_iff _ _ _ := Iff.rfl
  conditional_none_iff _ _ := Iff.rfl
  conditional_some_iff _ _ _ := Iff.rfl
  function_iff _ _ := Iff.rfl
  call_iff _ _ := Iff.rfl
  array_iff _ := Iff.rfl
  index_iff _ _ := Iff.rfl
  hash_iff _ := Iff.rfl
  macroLiteral_iff _ _ := Iff.rfl
  expressions_nil := trivial
  expressions_cons _ _ := Iff.rfl
  pairs_nil := trivial
  pairs_cons _ _ _ := Iff.rfl

namespace Correspondence

/-- A run that holds renderable syntax only, as one that corresponds to itself. -/
def renderable : Correspondence where
  trees := .renderable
  errors := True
  visible _ := True
  visible_of_name _ := trivial
  visible_quote := trivial
  left := .initial
  right := .initial
  shared _ := False
  shared_lt := False.elim

theorem frames_renderable (id : FrameId) : renderable.Frames id id :=
  frames_limited id

end Correspondence

open Correspondence

/-! ## Sessions -/

/-- Every value of the session holds renderable syntax only. -/
def Session.Renderable (session : Session) : Prop :=
  renderable.Machines session.machine session.machine

/-- A value that a text came to holds renderable syntax only. -/
def Outcome.Renderable : Outcome → Prop
  | .value shown => renderable.Values shown shown
  | _ => True

namespace Session

theorem renderable_initial : initial.Renderable :=
  keepsTo_initial

variable {depth : Nat} {session after : Session} {outcome : Outcome}

/-- A session keeps to renderable syntax, whatever text it reads. -/
theorem Renderable.read (held : session.Renderable) {text : String}
    (reads : session.read depth text = some (outcome, after)) :
    outcome.Renderable ∧ after.Renderable := by
  have keeps : session.KeepsTo .renderable True := held
  obtain ⟨limits, machines⟩ := keeps.read (renderable_parseText text) reads
  refine ⟨?_, machines⟩
  cases outcome with
  | value shown =>
      rcases limits with values | ⟨cause, rfl⟩
      · exact values
      · exact Values.error trivial cause
  | _ => trivial

end Session

/-! ## Reading back -/

theorem parseText_expression {expression : Expression} (renderable : expression.Renderable) :
    parseText expression.render = ⟨[.evaluate expression], []⟩ := by
  have text : renderStatements [.evaluate expression] = expression.render := rfl
  rw [← text]
  exact parseText_renderStatements ⟨renderable, trivial⟩

/-- A function is shown by the text of its literal. -/
theorem Value.display_function (closure : Closure) : (Value.function closure).display =
    (Expression.function closure.parameters closure.body).render := by
  rw [Value.display, Expression.render]
  rfl

/-- A macro is shown by the text of its literal. -/
theorem Value.display_macroValue (closure : Closure) : (Value.macroValue closure).display =
    (Expression.macroLiteral closure.parameters closure.body).render := by
  rw [Value.display, Expression.render]
  rfl

/-- The syntax that a value holds itself is renderable, and reads back from the text that shows
it. -/
def Value.Readable : Value → Prop
  | .function closure =>
    (∀ parameter ∈ closure.parameters, IsName parameter) ∧ StatementsRenderable closure.body ∧
      parseText (Value.function closure).display =
        ⟨[.evaluate (.function closure.parameters closure.body)], []⟩
  | .macroValue closure =>
    (∀ parameter ∈ closure.parameters, IsName parameter) ∧ StatementsRenderable closure.body ∧
      parseText (Value.macroValue closure).display =
        ⟨[.evaluate (.macroLiteral closure.parameters closure.body)], []⟩
  | .quote node => node.Renderable ∧ parseText node.render = ⟨[.evaluate node], []⟩
  | _ => True

theorem Value.readable {value : Value} (values : renderable.Values value value) :
    value.Readable := by
  cases values with
  | @function closure _ closures =>
      have inside : (Expression.function closure.parameters closure.body).Renderable :=
        ⟨closures.names, closures.statements⟩
      rw [Value.Readable, Value.display_function]
      exact ⟨closures.names, closures.statements, parseText_expression inside⟩
  | @macroValue closure _ closures =>
      have inside : (Expression.macroLiteral closure.parameters closure.body).Renderable :=
        ⟨closures.names, closures.statements⟩
      rw [Value.Readable, Value.display_macroValue]
      exact ⟨closures.names, closures.statements, parseText_expression inside⟩
  | quote inside => exact ⟨inside, parseText_expression inside⟩
  | _ => trivial

/-- **Syntax held at run time reads back.** Whatever texts a session has read, every function,
macro and quote that its frames lead to holds renderable syntax that its text reads back as, and so
does every one that the value of a further text leads to. When the macros of a text are expanded,
the expanded program reads back as well. -/
theorem held_syntax_readable {texts : List String} {session : Session}
    (reads : Session.initial.Reads texts session) :
    (∀ part, session.machine.store.Reaches session.names part ∨
      session.machine.store.Reaches session.macros part → part.Readable) ∧
    (∀ depth text value after part, session.read depth text = some (.value value, after) →
      after.machine.store.Leads value part → part.Readable) ∧
    ∀ depth text expanded after,
      expandMacros depth session.macros
        (defineMacros session.macros (parseText text).program session.machine).1
        (defineMacros session.macros (parseText text).program session.machine).2 =
          some (.value expanded, after) →
      expanded.Renderable ∧ parseText expanded.render = ⟨expanded, []⟩ := by
  have held : session.Renderable :=
    reads.invariant Session.renderable_initial fun held read => (held.read read).2
  have visible : ∀ name, renderable.visible name := fun _ => trivial
  refine ⟨?_, ?_, ?_⟩
  · intro part reaches
    rcases reaches with reaches | reaches
    · exact Value.readable (held.values_of_reaches visible (frames_renderable _) reaches)
    · exact Value.readable (held.values_of_reaches visible (frames_renderable _) reaches)
  · intro depth text value after part read leads
    obtain ⟨shown, machines⟩ := held.read read
    exact Value.readable (Machines.values_of_leads machines visible shown leads)
  · intro depth text expanded after expands
    obtain ⟨endings, _⟩ :=
      Session.KeepsTo.expansion held (renderable_parseText text) expands
    cases endings with
    | value same =>
        have text : expanded.render = renderStatements expanded := rfl
        rw [text]
        exact ⟨same.2, parseText_renderStatements same.2⟩

/-- The session that has read `let five = macro() { quote(-unquote(5)) };`. -/
def negatedFive : Session :=
  { Session.initial with
    machine := Session.initial.machine.defineMacro 1 "five" []
      [.evaluate (.call (.identifier "quote")
        [.unary .negate (.call (.identifier "unquote") [.integer 5])])] }

/-- `five()` expands to the negation of 5, which is not the number -5, and `-unquote(5 - 6)` is
quoted as the negation of -1. Both trees read back. -/
theorem held_syntax_readable_negated :
    (∃ after, expandMacros 3 1 [.evaluate (.call (.identifier "five") [])] negatedFive.machine =
      some (.value [.evaluate (.unary .negate (.integer 5))], after)) ∧
    parseText "(-(5))" = ⟨[.evaluate (.unary .negate (.integer 5))], []⟩ ∧
    (∃ after, negatedFive.read 4 "quote(-unquote(5 - 6))" =
      some (.value (.quote (.unary .negate (.integer (-1)))), after)) ∧
    parseText "(--1)" = ⟨[.evaluate (.unary .negate (.integer (-1)))], []⟩ := by
  have five : IsName "five" := by decide
  have quote : IsName "quote" := by decide
  have unquote : IsName "unquote" := by decide
  have renderable : Program.Renderable [.bind "five" (.macroLiteral []
      [.evaluate (.call (.identifier "quote")
        [.unary .negate (.call (.identifier "unquote") [.integer 5])])])] :=
    ⟨⟨five, fun _ mem => absurd mem List.not_mem_nil,
      ⟨quote, ⟨unquote, trivial, trivial⟩, trivial⟩, trivial⟩, trivial⟩
  have executes : Session.initial.execute 0 [.bind "five" (.macroLiteral []
      [.evaluate (.call (.identifier "quote")
        [.unary .negate (.call (.identifier "unquote") [.integer 5])])])] =
          some (.silent, negatedFive) := rfl
  have defined := (Session.read_render 0 Session.initial renderable).trans executes
  have called : parseText "five()" = ⟨[.evaluate (.call (.identifier "five") [])], []⟩ := by
    with_unfolding_all rfl
  have expands : (expandMacros 3 1 [.evaluate (.call (.identifier "five") [])]
      negatedFive.machine).map Prod.fst =
        some (.value [.evaluate (.unary .negate (.integer 5))]) := by with_unfolding_all rfl
  have parsed : parseText "quote(-unquote(5 - 6))" = ⟨[.evaluate (.call (.identifier "quote")
      [.unary .negate (.call (.identifier "unquote")
        [.binary .subtract (.integer 5) (.integer 6)])])], []⟩ := by
    with_unfolding_all rfl
  have quotes : (negatedFive.read 4 "quote(-unquote(5 - 6))").map Prod.fst =
      some (.value (.quote (.unary .negate (.integer (-1))))) := by
    rw [Session.read, parsed]
    with_unfolding_all rfl
  obtain ⟨⟨_, expanded⟩, expands, rfl⟩ := Option.map_eq_some_iff.mp expands
  obtain ⟨⟨_, quoted⟩, quotes, rfl⟩ := Option.map_eq_some_iff.mp quotes
  obtain ⟨-, values, expansions⟩ := held_syntax_readable (.text defined (.nothing _))
  have expansion := expansions 3 "five()" [.evaluate (.unary .negate (.integer 5))] expanded
  rw [called] at expansion
  have readsBack := (expansion expands).2
  have readsBack' := (values 4 _ _ quoted _ quotes (.self _)).2
  have text : Program.render [.evaluate (.unary .negate (.integer 5))] = "(-(5))" := by
    with_unfolding_all rfl
  have text' : (Expression.unary .negate (.integer (-1))).render = "(--1)" := by
    with_unfolding_all rfl
  rw [text] at readsBack
  rw [text'] at readsBack'
  exact ⟨⟨expanded, expands⟩, readsBack, ⟨quoted, quotes⟩, readsBack'⟩

end MonkeyLang
