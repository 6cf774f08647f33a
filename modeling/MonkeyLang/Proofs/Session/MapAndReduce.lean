import Mathlib.Algebra.Ring.Int.Defs
import MonkeyLang.Proofs.Evaluation.HigherOrder
import MonkeyLang.Proofs.Expansion.Definitions
import MonkeyLang.Proofs.Expansion.Effects
import MonkeyLang.Proofs.Parsing.Isolation
import MonkeyLang.Proofs.Scanning.Joining
import MonkeyLang.Proofs.Session.Reading

/-!
# Doubling and summing with `map` and `reduce`

One text defines `map` and `reduce`, doubles the elements of an array with the one and adds
them up with the other. Whatever integers are written in the array, a session with no names
yet reads the text as the same program around them, evaluates it to the sum of the doubled
integers, wrapped to 64 bits, and prints nothing; afterwards it has three names, `map`,
`reduce` and `doubled` (`read_source`).

The text is read in pieces that end in delimiters, and the array literal is one of them. The
program is evaluated statement by statement: the frame on the top gets one name after the
other, and no call changes it.
-/

set_option autoImplicit false

namespace MonkeyLang

/-- A session without macros runs a program that defines none as it is. -/
theorem Session.execute_of_plain {session : Session} {program : Program} (depth : Nat)
    (plain : ∀ statement ∈ program, statement.definesMacro = false)
    (macros : session.machine.store.NoMacros session.macros) :
    session.execute depth program = session.run depth program := by
  have expands : expandMacros depth session.macros program session.machine =
      some (.value program, session.machine) := reads_expandMacros depth macros program
  rw [Session.execute, defineMacros_of_none plain]
  simp only [expands]

namespace HigherOrder

/-! ## The program -/

/-- `x * 2`. -/
def doublingBody : Block :=
  [.evaluate (.binary .multiply (.identifier "x") (.integer 2))]

/-- `acc + x`. -/
def addingBody : Block :=
  [.evaluate (.binary .add (.identifier "acc") (.identifier "x"))]

/-- `map(numbers, fn(x) { x * 2 })`. -/
def doubledCall (numbers : List Int64) : Expression :=
  .call (.identifier "map") [.array (numbers.map .integer), .function ["x"] doublingBody]

/-- `reduce(doubled, 0, fn(acc, x) { acc + x })`. -/
def sumCall : Expression :=
  .call (.identifier "reduce")
    [.identifier "doubled", .integer 0, .function ["acc", "x"] addingBody]

/-- The program that doubles numbers and adds them up. -/
def program (numbers : List Int64) : Program :=
  [.bind "map" map, .bind "reduce" reduce, .bind "doubled" (doubledCall numbers),
    .evaluate sumCall]

/-- Twice a number, wrapped to 64 bits. -/
def doubled (number : Int64) : Int64 :=
  .ofInt (2 * number.toInt)

/-- The sum of the doubled numbers, wrapped to 64 bits. -/
def doubledSum (numbers : List Int64) : Int64 :=
  .ofInt (numbers.map fun number => 2 * number.toInt).sum

/-- Adding wrapped numbers up wraps their sum. -/
theorem foldl_doubled (numbers : List Int64) :
    numbers.foldl (fun sum number => sum + doubled number) 0 = doubledSum numbers := by
  have each : ∀ start : Int, numbers.foldl (fun sum number => sum + doubled number)
      (Int64.ofInt start) = .ofInt (start + (numbers.map fun number => 2 * number.toInt).sum) := by
    induction numbers with
    | nil =>
        intro start
        rw [List.map_nil, List.sum_nil, Int.add_zero, List.foldl_nil]
    | cons number numbers ih =>
        intro start
        rw [List.foldl_cons, doubled, ← Int64.ofInt_add, ih, List.map_cons, List.sum_cons,
          Int.add_assoc]
  rw [doubledSum, ← Int.zero_add (List.sum _)]
  exact each 0

/-! ## Evaluating it -/

section Callbacks

variable {start : Machine} {scope : Scope} {home : FrameId} {stamp : Nat}

theorem attains_doubling (sees : start.Sees home scope) (number : Int64) :
    Process.Attains (fun depth => (evaluate depth).apply
      (.function ⟨["x"], doublingBody, home, stamp⟩) [.integer number]) start
      (· = .integer (doubled number)) := by
  have twice : number * 2 = doubled number := by
    rw [doubled, Int64.ofInt_mul, Int64.ofInt_toInt, Int64.mul_comm]
    rfl
  refine Evaluator.attains_apply rfl sees fun _ inside => Expression.Attains.block ?_
  refine .binary (.identifier inside rfl) (.integer 2) ?_
  rw [Value.applyBinary, Value.applyToIntegers, twice]

theorem attains_adding (sees : start.Sees home scope) (sum number : Int64) :
    Process.Attains (fun depth => (evaluate depth).apply
      (.function ⟨["acc", "x"], addingBody, home, stamp⟩) [.integer sum, .integer number]) start
      (· = .integer (sum + number)) := by
  refine Evaluator.attains_apply rfl sees fun _ inside => Expression.Attains.block ?_
  exact .binary (.identifier inside rfl) (.identifier inside rfl) rfl

end Callbacks

section Statements

variable {top : FrameId} {machine : Machine} {stamp stamp' : Nat}

theorem attains_doubledCall (numbers : List Int64) (present : machine.store.frame? top =
      some ⟨[("map", .function (mapClosure top stamp)),
        ("reduce", .function (reduceClosure top stamp'))], none⟩) :
    (doubledCall numbers).Attains top machine
      (· = .array (numbers.map fun number => .integer (doubled number))) := by
  have sees := Machine.Sees.of_frame? present
  have literal : List.Forall₂ (fun element value => Expression.Attains element top machine
      (· = value)) (numbers.map Expression.integer) (numbers.map Value.integer) := by
    rw [List.forall₂_map_left_iff, List.forall₂_map_right_iff]
    exact List.forall₂_same.mpr fun number _ => .integer number
  refine .call (by simp) (.identifier sees rfl)
    ((Expression.Attains.array literal).cons ((Expression.Attains.function _ _).cons
      Expression.attains_nil)) ?_
  rintro _ _ rfl ⟨_, _, rfl, rfl, _, _, rfl, ⟨_, rfl⟩, rfl⟩
  exact attains_map sees (by rintro (_ | _) <;> rfl) (attains_doubling sees) numbers

theorem attains_sumCall (numbers : List Int64) (present : machine.store.frame? top =
      some ⟨[("doubled", .array (numbers.map fun number => .integer (doubled number))),
        ("map", .function (mapClosure top stamp)),
        ("reduce", .function (reduceClosure top stamp'))], none⟩) :
    sumCall.Attains top machine (· = .integer (doubledSum numbers)) := by
  have sees := Machine.Sees.of_frame? present
  refine .call (by simp) (.identifier sees rfl)
    ((Expression.Attains.identifier sees rfl).cons ((Expression.Attains.integer 0).cons
      ((Expression.Attains.function _ _).cons Expression.attains_nil))) ?_
  rintro _ _ rfl ⟨_, _, rfl, rfl, _, _, rfl, rfl, _, _, rfl, ⟨_, rfl⟩, rfl⟩
  rw [← foldl_doubled]
  exact attains_reduce sees (by rintro (_ | _) <;> rfl)
    (fun sum number => attains_adding sees sum (doubled number)) numbers 0

/-- **The program doubles and sums**, on any machine with a frame that binds nothing yet. -/
theorem ends_program (numbers : List Int64)
    (fresh : machine.store.frame? top = some ⟨[], none⟩) :
    ∃ after stamp stamp',
      Process.Ends (fun depth => (evaluate depth).block top (program numbers)) machine
        (.value (.integer (doubledSum numbers))) after ∧
      after.printed = machine.printed ∧
      after.store.frame? top = some
        ⟨[("doubled", .array (numbers.map fun number => .integer (doubled number))),
          ("map", .function (mapClosure top stamp)),
          ("reduce", .function (reduceClosure top stamp'))], none⟩ := by
  have mapMade : map.Attains top machine _ := .function _ _
  obtain ⟨_, first, ends₁, later₁, stamp, rfl⟩ := mapMade _ (.refl _)
  have present₁ := later₁.frame?_bind fresh "map" (.function (mapClosure top stamp))
  have reduceMade : reduce.Attains top
      (first.bind top "map" (.function (mapClosure top stamp))) _ := .function _ _
  obtain ⟨_, _, ends₂, later₂, stamp', rfl⟩ := reduceMade _ (.refl _)
  have present₂ :=
    later₂.frame?_bind present₁ "reduce" (.function (reduceClosure top stamp'))
  obtain ⟨_, _, ends₃, later₃, rfl⟩ := attains_doubledCall numbers present₂ _ (.refl _)
  have present₃ := later₃.frame?_bind present₂ "doubled"
    (.array (numbers.map fun number => .integer (doubled number)))
  obtain ⟨_, after, ends₄, later₄, rfl⟩ := attains_sumCall numbers present₃ _ (.refl _)
  refine ⟨after, stamp, stamp', ?_, ?_, ?_⟩
  · refine ends_block_bind ends₁ (ends_block_bind ends₂ (ends_block_bind ends₃ ?_))
    simp only [block_evaluate]
    exact ends₄
  · exact later₄.printed.trans (later₃.printed.trans (later₂.printed.trans later₁.printed))
  · have inside := (Machine.Sees.of_frame? present₃).inside
    exact (later₄.store.frame?_eq top inside).trans present₃

end Statements

/-! ## Reading its text -/

/-- The text is read as the program, without a diagnostic, and is closed off by a semicolon. -/
def ReadsClosed (text : List Char) (program : Program) : Prop :=
  Delimited text ∧ ClosedOff (scanAll text) ∧
    (∀ token ∈ scanAll text, token.kind ≠ .illegal ∧ token.kind ≠ .endOfInput) ∧
    (parse (scanAll text)).diagnostics = [] ∧ (parse (scanAll text)).program = program

instance (text : List Char) (program : Program) : Decidable (ReadsClosed text program) :=
  inferInstanceAs (Decidable (_ ∧ _ ∧ _ ∧ _ ∧ _))

/-- Before any other text it is read as the same program. -/
theorem ReadsClosed.parse_append {text : List Char} {program : Program}
    (reads : ReadsClosed text program) (rest : List Char) :
    parse (scanAll (text ++ rest)) =
      ⟨program ++ (parse (scanAll rest)).program, (parse (scanAll rest)).diagnostics⟩ := by
  obtain ⟨delimited, closed, kinds, clean, rfl⟩ := reads
  rw [scanAll_append delimited (fun token mem => (kinds token mem).1),
    MonkeyLang.parse_append (fun token mem => (kinds token mem).2) closed clean]

/-- The text of the definition of `map`. -/
def mapText : String :=
  "\n" ++
  "        let map = fn(arr, f) \x7b\n" ++
  "            let iter = fn(arr, acc) \x7b\n" ++
  "                if (len(arr) == 0) \x7b acc \x7d else " ++
    "\x7b iter(rest(arr), push(acc, f(first(arr)))) \x7d\n" ++
  "            \x7d;\n" ++
  "            iter(arr, []);\n" ++
  "        \x7d;"

/-- The text of the definition of `reduce`. -/
def reduceText : String :=
  "\n" ++
  "        let reduce = fn(arr, initial, f) \x7b\n" ++
  "            let iter = fn(arr, result) \x7b\n" ++
  "                if (len(arr) == 0) \x7b result \x7d else " ++
    "\x7b iter(rest(arr), f(result, first(arr))) \x7d\n" ++
  "            \x7d;\n" ++
  "            iter(arr, initial);\n" ++
  "        \x7d;"

/-- The text between the definitions and the array literal. -/
def openingText : String :=
  "\n        let doubled = map("

/-- The text after the array literal. -/
def closingText : String :=
  ", fn(x) \x7b x * 2 \x7d);\n        reduce(doubled, 0, fn(acc, x) \x7b acc + x \x7d);\n    "

/-- The text of the program, with the numbers written in its array literal. -/
def source (numbers : List Int64) : String :=
  mapText ++ (reduceText ++ (openingText ++
    ((Expression.array (numbers.map .integer)).render ++ closingText)))

theorem readsClosed_mapText : ReadsClosed mapText.toList [.bind "map" map] := by
  simp only [mapText, String.toList_append]
  decide +kernel

theorem readsClosed_reduceText : ReadsClosed reduceText.toList [.bind "reduce" reduce] := by
  simp only [reduceText, String.toList_append]
  decide +kernel

/-- The tokens between the definitions and the array literal. -/
def openingTokens : List Token :=
  [⟨.letWord, "let"⟩, ⟨.identifier, "doubled"⟩, .symbol .assign, ⟨.identifier, "map"⟩,
    .symbol .leftParen]

/-- The tokens after the array literal. -/
def closingTokens : List Token :=
  [.symbol .comma, ⟨.functionWord, "fn"⟩, .symbol .leftParen, ⟨.identifier, "x"⟩,
    .symbol .rightParen, .symbol .leftBrace, ⟨.identifier, "x"⟩, .symbol .asterisk,
    ⟨.integer, "2"⟩, .symbol .rightBrace, .symbol .rightParen, .symbol .semicolon,
    ⟨.identifier, "reduce"⟩, .symbol .leftParen, ⟨.identifier, "doubled"⟩, .symbol .comma,
    ⟨.integer, "0"⟩, .symbol .comma, ⟨.functionWord, "fn"⟩, .symbol .leftParen,
    ⟨.identifier, "acc"⟩, .symbol .comma, ⟨.identifier, "x"⟩, .symbol .rightParen,
    .symbol .leftBrace, ⟨.identifier, "acc"⟩, .symbol .plus, ⟨.identifier, "x"⟩,
    .symbol .rightBrace, .symbol .rightParen, .symbol .semicolon]

theorem renderable_numbers : ∀ numbers : List Int64,
    ExpressionsRenderable (numbers.map .integer)
  | [] => trivial
  | _ :: numbers => ⟨trivial, renderable_numbers numbers⟩

/-- The text after the definitions is scanned as the tokens around those of the array. -/
theorem scanAll_calls (numbers : List Int64) :
    scanAll (openingText.toList ++
      ((Expression.array (numbers.map .integer)).render.toList ++ closingText.toList)) =
      openingTokens ++ ((Expression.array (numbers.map .integer)).tokens ++ closingTokens) := by
  have opening : scanAll openingText.toList = openingTokens := by
    decide +kernel
  have closing : scanAll closingText.toList = closingTokens := by
    decide +kernel
  have delimited : Delimited openingText.toList := by
    decide +kernel
  have apart : Apart closingText.toList := by
    rfl
  rw [scanAll_append delimited (by rw [opening]; decide), opening,
    @Expression.scanAll_render (.array _) (renderable_numbers numbers) _ apart, closing]

/-- These tokens spell the last two statements of the program. -/
theorem spelling_calls (numbers : List Int64) :
    Spelling (.statements [.bind "doubled" (doubledCall numbers), .evaluate sumCall])
      (openingTokens ++ ((Expression.array (numbers.map .integer)).tokens ++ closingTokens)) := by
  have array := @Expression.spelling_tokens (.array _) (renderable_numbers numbers)
  have zero := @Spelling.integer "0" 0 rfl (by decide)
  have two := @Spelling.integer "2" 2 rfl (by decide)
  have product := @Spelling.binary .multiply _ _ _ _ _ _ "*" (by decide) (by decide)
    (.identifier "x") two
  have sum := @Spelling.binary .add _ _ _ _ _ _ "+" (by decide) (by decide)
    (.identifier "acc") (.identifier "x")
  have callback := @Spelling.function _ _ _ _ "fn" "(" ")" "\x7b" "\x7d" (.oneName "x")
    (.unclosed (.evaluate product) .noStatements (by decide))
  have callback' := @Spelling.function _ _ _ _ "fn" "(" ")" "\x7b" "\x7d"
    (@Spelling.moreNames "acc" _ _ _ "," (.oneName "x"))
    (.unclosed (.evaluate sum) .noStatements (by decide))
  have doubles := @Spelling.call _ _ _ _ "(" ")" (.identifier "map")
    (@Spelling.moreExpressions _ _ _ _ _ _ "," array (.oneExpression callback))
  have sums := @Spelling.call _ _ _ _ "(" ")" (.identifier "reduce")
    (@Spelling.moreExpressions _ _ _ _ _ _ "," (.identifier "doubled")
      (@Spelling.moreExpressions _ _ _ _ _ _ "," zero (.oneExpression callback')))
  have whole := @Spelling.closed _ _ _ _ ";" (@Spelling.bind _ "doubled" _ _ "let" "=" doubles)
    (@Spelling.closed _ _ _ _ ";" (.evaluate sums) .noStatements)
  simp only [List.append_assoc, List.cons_append, List.nil_append] at whole
  exact whole

/-- **The text is read as the program**, whatever the numbers are. -/
theorem parseText_source (numbers : List Int64) :
    parseText (source numbers) = ⟨program numbers, []⟩ := by
  rw [parseText, tokenize, source, String.toList_append, String.toList_append,
    String.toList_append, String.toList_append, readsClosed_mapText.parse_append,
    readsClosed_reduceText.parse_append, scanAll_calls, parse_of_spelling (spelling_calls numbers)]
  rfl

example : (Expression.array ([1, -2, 3].map .integer)).render = "[1, -2, 3]" := by
  decide +kernel

/-! ## A session that reads it -/

/-- **`map` and `reduce` compute the right thing on every array.** In a session whose frame of names
binds nothing and whose frame of macros sees no macro, the text with any numbers in its array is
read as the program around these numbers, and reading it ends with the sum of the doubled numbers,
wrapped to 64 bits. Nothing is printed, and the frame of names binds `map`, `reduce` and `doubled`,
the array of the doubled numbers, and nothing else. -/
theorem read_source (session : Session)
    (names : session.machine.store.frame? session.names = some ⟨[], none⟩)
    (macros : session.machine.store.NoMacros session.macros) (numbers : List Int64) :
    parseText (source numbers) = ⟨program numbers, []⟩ ∧
    ∃ depth machine stamp stamp',
      (∀ more, depth ≤ more → session.read more (source numbers) =
        some (.value (.integer (.ofInt (numbers.map fun number => 2 * number.toInt).sum)),
          { session with machine })) ∧
      machine.printed = session.machine.printed ∧
      machine.store.frame? session.names = some
        ⟨[("doubled", .array (numbers.map fun number => .integer (.ofInt (2 * number.toInt)))),
          ("map", .function (mapClosure session.names stamp)),
          ("reduce", .function (reduceClosure session.names stamp'))], none⟩ := by
  obtain ⟨machine, stamp, stamp', ⟨depth, ends⟩, printed, present⟩ := ends_program numbers names
  refine ⟨parseText_source numbers, depth, machine, stamp, stamp', ?_, printed, present⟩
  intro more le
  have plain : ∀ statement ∈ program numbers, statement.definesMacro = false := by
    simp [program, Statement.definesMacro, map, reduce, doubledCall]
  rw [Session.read, parseText_source, List.isEmpty_nil, if_pos rfl,
    Session.execute_of_plain more plain macros, Session.run_of_block (ends more le)]
  rfl

/-- In a session that has read nothing, `9223372036854775807` and `1` are doubled to `-2` and `2`,
and their sum is `0`. -/
theorem read_source_wrapped : ∃ depth machine stamp stamp',
    (∀ more, depth ≤ more → Session.initial.read more (source [Int64.maxValue, 1]) =
      some (.value (.integer 0), { Session.initial with machine })) ∧
    machine.printed = "" ∧
    machine.store.frame? 0 = some
      ⟨[("doubled", .array [.integer (-2), .integer 2]), ("map", .function (mapClosure 0 stamp)),
        ("reduce", .function (reduceClosure 0 stamp'))], none⟩ := by
  have macros : Session.initial.machine.store.NoMacros Session.initial.macros := by
    intro name closure found
    rw [Store.lookup?_of_outermost rfl rfl rfl] at found
    cases found
  exact (read_source Session.initial rfl macros [Int64.maxValue, 1]).2

end HigherOrder

end MonkeyLang
