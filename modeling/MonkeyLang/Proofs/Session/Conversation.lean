import MonkeyLang.Proofs.Expansion.Depth
import MonkeyLang.Proofs.Session.Lines
import MonkeyLang.Proofs.Session.OneByOne

/-!
# A dialogue is a fold over its lines

A dialogue over an input that begins with whole lines is a dialogue over these lines and then one
over the rest, begun in the session that the lines left (`converse_by_lines`). What it shows for
the lines depends on nothing after them: for each line one prompt and the answer to it, where the
session reads the lines one after the other (`Session.Answers`). A line that is no text closes the
dialogue right after its prompt, whatever comes after the line.

The lines of a text are read within a depth. A dialogue over lines that ended within some depth ends
alike within every greater depth, so the rest may need a greater one.
-/

set_option autoImplicit false

namespace MonkeyLang

namespace Session

variable {depth depth' : Nat} {session after : Session} {outcome : Outcome}

/-! ## Depth -/

theorem execute_of_le (le : depth ≤ depth') {program : Program}
    (executes : session.execute depth program = some (outcome, after)) :
    session.execute depth' program = some (outcome, after) := by
  obtain ⟨ending, machine, expands, comes⟩ := of_execute_eq executes
  have expands := expandMacros_below le _ _ _ _ expands
  rw [execute]
  dsimp only
  rw [expands]
  rcases comes with ⟨expanded, rfl, runs⟩ | ⟨value, rfl, rfl, rfl⟩ | ⟨cause, rfl, rfl, rfl⟩
  · exact run_of_le le runs
  · rfl
  · rfl

/-- What was read within some depth is read alike within a greater one. -/
theorem read_of_le (le : depth ≤ depth') {text : String}
    (reads : session.read depth text = some (outcome, after)) :
    session.read depth' text = some (outcome, after) := by
  rcases of_read_eq reads with ⟨parses, executes⟩ | ⟨malformed, rfl, rfl⟩
  · rw [read, if_pos (List.isEmpty_iff.mpr parses)]
    exact execute_of_le le executes
  · exact if_neg (mt List.isEmpty_iff.mp malformed)

/-! ## Lines that are answered -/

/-- The session reads the lines one after the other. For each line there is what it came to and
what was printed until its end, which is taken before the next line is read. -/
inductive Answers (depth : Nat) : Session → List String → List (Outcome × String) → Session → Prop
    where
  | nothing (session : Session) : Answers depth session [] [] session
  | line {session middle after : Session} {line : String} {lines : List String}
      {outcome : Outcome} {answers : List (Outcome × String)}
      (reads : session.read depth line = some (outcome, middle))
      (others : Answers depth middle.takePrinted.2 lines answers after) :
      Answers depth session (line :: lines) ((outcome, middle.takePrinted.1) :: answers) after

theorem Answers.of_le (le : depth ≤ depth') {lines : List String}
    {answers : List (Outcome × String)} (hears : session.Answers depth lines answers after) :
    session.Answers depth' lines answers after := by
  induction hears with
  | nothing session => exact .nothing session
  | line reads _ ih => exact .line (read_of_le le reads) ih

end Session

/-! ## What is shown of lines -/

/-- The exchanges of lines that were answered. -/
def exchangesOf (answers : List (Outcome × String)) : List Exchange :=
  answers.map fun (outcome, printed) => ⟨printed, outcome.answer⟩

/-- What is shown of lines: for each one the prompt and the answer to it. -/
def shownOf (prompt : String) (answers : List (Outcome × String)) : String :=
  answers.foldr (fun (outcome, _) text => prompt ++ outcome.answer ++ text) ""

/-- What the lines printed. -/
def printedOf (answers : List (Outcome × String)) : String :=
  answers.foldr (fun (_, printed) text => printed ++ text) ""

namespace Dialogue

/-- A dialogue with the exchanges of some lines before it. -/
def afterLines (answers : List (Outcome × String)) (dialogue : Dialogue) : Dialogue :=
  { dialogue with exchanges := exchangesOf answers ++ dialogue.exchanges }

variable (answers : List (Outcome × String)) (dialogue : Dialogue)

@[simp]
theorem transcript_afterLines (prompt : String) :
    (dialogue.afterLines answers).transcript prompt =
      shownOf prompt answers ++ dialogue.transcript prompt := by
  induction answers with
  | nil => exact String.empty_append.symm
  | cons first answers ih =>
      rw [shownOf, List.foldr_cons, String.append_assoc]
      exact congrArg (prompt ++ first.1.answer ++ ·) ih

@[simp]
theorem printed_afterLines :
    (dialogue.afterLines answers).printed = printedOf answers ++ dialogue.printed := by
  induction answers with
  | nil => exact String.empty_append.symm
  | cons first answers ih =>
      rw [printedOf, List.foldr_cons, String.append_assoc]
      exact congrArg (first.2 ++ ·) ih

end Dialogue

/-! ## Dialogues over lines -/

namespace Session

variable {depth : Nat} {session after : Session}

theorem converse_nil (depth : Nat) (session : Session) :
    session.converse depth [] = some ⟨[], .endOfInput, session⟩ := by
  rw [converse]

/-- At a line that is no text the dialogue closes. -/
theorem converse_of_notText {input : List UInt8} (notText : textOfBytes? (takeLine input).1 = none) :
    session.converse depth input = some ⟨[], .notText, session⟩ := by
  cases input with
  | nil => exact absurd notText (by rw [takeLine]; exact Option.some_ne_none _)
  | cons byte rest => rw [converse, notText]

/-- A dialogue whose first line is a text begins with the exchange over this line. -/
theorem converse_line {line : String} (isLine : IsLine line) (rest : List UInt8) :
    session.converse depth (bytesOf line ++ rest) =
      (session.exchange depth line).bind fun reached =>
        (reached.2.converse depth rest).map (Dialogue.after reached.1) := by
  have first := takeLine_bytesOf isLine rest
  cases whole : bytesOf line ++ rest with
  | nil => exact absurd (List.append_eq_nil_iff.mp whole).1 (bytesOf_ne_nil isLine)
  | cons byte others =>
      rw [whole] at first
      rw [converse, first, textOfBytes?_bytesOf]
      dsimp only
      cases session.exchange depth line <;> rfl

/-- **A dialogue goes on after lines as one that begins in the session that they left.** -/
theorem Answers.converse {lines : List String} {answers : List (Outcome × String)}
    (hears : session.Answers depth lines answers after) (each : ∀ line ∈ lines, IsLine line)
    (rest : List UInt8) :
    session.converse depth (lines.flatMap bytesOf ++ rest) =
      (after.converse depth rest).map (Dialogue.afterLines answers) := by
  induction hears with
  | nothing session => exact Option.map_id_apply.symm
  | @line session middle after line lines outcome answers reads _ ih =>
      rw [List.forall_mem_cons] at each
      have exchanges : session.exchange depth line =
          some (⟨middle.takePrinted.1, outcome.answer⟩, middle.takePrinted.2) := by
        rw [exchange, reads]
        rfl
      rw [List.flatMap_cons, List.append_assoc, converse_line each.1, exchanges, Option.bind_some]
      dsimp only
      rw [ih each.2, Option.map_map]
      rfl

/-- In a dialogue over lines every line was answered. -/
theorem exists_answers {lines : List String} (each : ∀ line ∈ lines, IsLine line)
    {dialogue : Dialogue}
    (converses : session.converse depth (lines.flatMap bytesOf) = some dialogue) :
    ∃ answers after, session.Answers depth lines answers after := by
  induction lines generalizing session dialogue with
  | nil => exact ⟨[], session, .nothing session⟩
  | cons line lines ih =>
      rw [List.forall_mem_cons] at each
      rw [List.flatMap_cons, converse_line each.1, Option.bind_eq_some_iff] at converses
      obtain ⟨⟨first, next⟩, exchanges, converses⟩ := converses
      obtain ⟨later, converses, -⟩ := Option.map_eq_some_iff.mp converses
      obtain ⟨⟨outcome, middle⟩, reads, same⟩ := Option.map_eq_some_iff.mp exchanges
      cases same
      obtain ⟨answers, after, others⟩ := ih each.2 converses
      exact ⟨_, after, .line reads others⟩

end Session

/-- The dialogue is another one with lines before it: it closes as that one does, on the same
session, and it shows and prints first what the lines led to. -/
structure Dialogue.Continues (answers : List (Outcome × String)) (later whole : Dialogue) :
    Prop where
  closing : whole.closing = later.closing
  session : whole.session = later.session
  printed : whole.printed = printedOf answers ++ later.printed
  transcript : ∀ prompt, whole.transcript prompt = shownOf prompt answers ++ later.transcript prompt

theorem Dialogue.continues_afterLines (answers : List (Outcome × String)) :
    ∀ ended : Option Dialogue,
      Option.Rel (Dialogue.Continues answers) ended (ended.map (Dialogue.afterLines answers))
  | none => .none
  | some later =>
    .some ⟨rfl, rfl, later.printed_afterLines answers, later.transcript_afterLines answers⟩

/-- **A dialogue is a fold over its lines.** A dialogue over a text that is empty or ends with a line
feed shows for each line one prompt and the answer to it, and then a last prompt and a line feed.
Over an input that begins with this text, a dialogue that begins in the same session shows the
same for these lines, and goes on as the dialogue over the rest does that begins in the session that
the lines left. If the first line of the rest is no text, the dialogue ends right after the prompt
for it, and no line after it is read. -/
theorem converse_by_lines {depth : Nat} {session : Session} {text : String} {dialogue : Dialogue}
    (whole : text = "" ∨ ∃ body, text = body ++ "\n")
    (converses : session.converse depth (bytesOf text) = some dialogue) :
    ∃ lines answers,
      bytesOf text = lines.flatMap bytesOf ∧ (∀ line ∈ lines, IsLine line) ∧
      session.Answers depth lines answers dialogue.session ∧
      dialogue.closing = .endOfInput ∧ dialogue.printed = printedOf answers ∧
      (∀ prompt, dialogue.transcript prompt = shownOf prompt answers ++ (prompt ++ "\n")) ∧
      ∀ more, depth ≤ more → ∀ rest,
        Option.Rel (Dialogue.Continues answers) (dialogue.session.converse more rest)
          (session.converse more (bytesOf text ++ rest)) ∧
        (textOfBytes? (takeLine rest).1 = none →
          ∃ both, session.converse more (bytesOf text ++ rest) = some both ∧
            both.closing = .notText ∧ both.session = dialogue.session ∧
            both.printed = dialogue.printed ∧
            ∀ prompt, both.transcript prompt = shownOf prompt answers ++ prompt) := by
  obtain ⟨lines, bytes, each⟩ := exists_lines whole
  rw [bytes] at converses ⊢
  obtain ⟨answers, after, hears⟩ := Session.exists_answers each converses
  have ended := hears.converse each []
  rw [List.append_nil, converses, Session.converse_nil] at ended
  obtain rfl := Option.some.inj ended
  have printed : (Dialogue.afterLines answers ⟨[], .endOfInput, after⟩).printed =
      printedOf answers :=
    (Dialogue.printed_afterLines answers _).trans String.append_empty
  refine ⟨lines, answers, rfl, each, hears, rfl, printed, ?_, ?_⟩
  · exact Dialogue.transcript_afterLines answers _
  intro more le rest
  rw [(hears.of_le le).converse each rest]
  refine ⟨Dialogue.continues_afterLines answers _, fun notText => ?_⟩
  rw [Session.converse_of_notText notText]
  refine ⟨Dialogue.afterLines answers ⟨[], .notText, after⟩, rfl, rfl, rfl, ?_, fun prompt => ?_⟩
  · rw [printed, Dialogue.printed_afterLines]
    exact String.append_empty
  · rw [Dialogue.transcript_afterLines]
    exact congrArg (shownOf prompt answers ++ ·) String.append_empty

/-- Of three lines the first does not parse, the second binds `a` to 1 and the third prints it; the
line after them is no text, and the one after that is not read. -/
theorem converse_by_lines_notText :
    ∃ dialogue both : Dialogue,
      Session.initial.converse 3 (bytesOf ")\nlet a = 1;\nputs(a)\n") = some dialogue ∧
      dialogue.transcript ">> " =
        ">> parser errors:\n\tno prefix parse function for ) found\n>> >> null\n>> \n" ∧
      Session.initial.converse 3
        (bytesOf ")\nlet a = 1;\nputs(a)\n" ++ ([255, 10] ++ bytesOf "puts(a)\n")) = some both ∧
      both.closing = .notText ∧ both.session = dialogue.session ∧ both.printed = "1\n" ∧
      both.transcript ">> " =
        ">> parser errors:\n\tno prefix parse function for ) found\n>> >> null\n>> " := by
  have each : ∀ line ∈ [")\n", "let a = 1;\n", "puts(a)\n"], IsLine line := by
    rw [List.forall_mem_cons, List.forall_mem_cons, List.forall_mem_singleton]
    exact ⟨⟨")", rfl, by decide⟩, ⟨"let a = 1;", rfl, by decide⟩, ⟨"puts(a)", rfl, by decide⟩⟩
  -- What the lines are read as.
  have tokens : tokenize ")\n" = [⟨.rightParen, ")"⟩] := by with_unfolding_all rfl
  have malformed : parse [⟨.rightParen, ")"⟩] = ⟨[], [.noOperand .rightParen]⟩ := by
    with_unfolding_all rfl
  have binding : parseText "let a = 1;\n" = ⟨[.bind "a" (.integer 1)], []⟩ := by
    with_unfolding_all rfl
  have printing : parseText "puts(a)\n" =
      ⟨[.evaluate (.call (.identifier "puts") [.identifier "a"])], []⟩ := by with_unfolding_all rfl
  -- What they lead to, each in the session that the one before it left.
  have rejected : Session.initial.read 3 ")\n" =
      some (.malformed [.noOperand .rightParen], Session.initial) := by
    rw [Session.read, parseText, tokens, malformed]
    rfl
  have runs : (Session.initial.read 3 "let a = 1;\n").bind (fun bound =>
      (bound.2.takePrinted.2.read 3 "puts(a)\n").map fun reached =>
        (bound.1, bound.2.machine.printed, reached.1, reached.2.machine.printed)) =
      some (.silent, "", .value .null, "1\n") := by
    simp only [Session.read, binding, printing]
    with_unfolding_all rfl
  obtain ⟨⟨nothing, bound⟩, binds, prints⟩ := Option.bind_eq_some_iff.mp runs
  obtain ⟨⟨null, after⟩, prints, same⟩ := Option.map_eq_some_iff.mp prints
  simp only [Prod.mk.injEq] at same
  obtain ⟨rfl, silent, rfl, one⟩ := same
  have hears : Session.initial.Answers 3 [")\n", "let a = 1;\n", "puts(a)\n"]
      [(.malformed [.noOperand .rightParen], ""), (.silent, bound.machine.printed),
        (.value .null, after.machine.printed)] after.takePrinted.2 :=
    .line rejected (.line binds (.line prints (.nothing _)))
  rw [silent, one] at hears
  have converses := hears.converse each []
  rw [List.append_nil, Session.converse_nil, Option.map_some] at converses
  have bytes : [")\n", "let a = 1;\n", "puts(a)\n"].flatMap bytesOf =
      bytesOf ")\nlet a = 1;\nputs(a)\n" := by decide
  rw [bytes] at converses
  obtain ⟨lines, answers, -, -, -, -, -, shows, goesOn⟩ :=
    converse_by_lines (.inr ⟨")\nlet a = 1;\nputs(a)", rfl⟩) converses
  have notText : textOfBytes? (takeLine ([255, 10] ++ bytesOf "puts(a)\n")).1 = none := by decide
  obtain ⟨both, ends, closing, session, printed, transcript⟩ :=
    (goesOn 3 (Nat.le_refl 3) _).2 notText
  have shown : shownOf ">> " answers =
      ">> parser errors:\n\tno prefix parse function for ) found\n>> >> null\n" :=
    (String.append_left_inj _).mp (shows ">> ").symm
  refine ⟨_, both, converses, rfl, ends, closing, session, printed, ?_⟩
  rw [transcript, shown]
  rfl

end MonkeyLang
