import MonkeyLang.Proofs.Expansion.CorrespondingExpansions
import MonkeyLang.Proofs.Parsing.Renderability
import MonkeyLang.Proofs.Session.Frames

/-!
# The macro pass is separate from evaluation

What the macro pass makes of a program is decided by the macro definitions that
the session has read, and by nothing that its programs evaluated, bound, printed
or failed with (`phases_separate`): a session that was given the definitions alone
makes the same of it.

Two sessions that define the same macros need not have the same frames, and the
closures of their macros may have different stamps. Only the frame of the macros
is shared, so the correspondence that is followed through both macro passes begins
with this frame.
-/

set_option autoImplicit false

namespace MonkeyLang

open Correspondence

/-! ## The same macros -/

/-- The same macro, made at different times. -/
inductive SameMacro (macros : FrameId) : Value → Value → Prop where
  | intro (parameters : List String) (body : Block) (stamp stamp' : Nat) :
    SameMacro macros (.macroValue ⟨parameters, body, macros, stamp⟩)
      (.macroValue ⟨parameters, body, macros, stamp'⟩)

/-- Frames that bind nothing but the same macros. -/
structure SameMacros (macros : FrameId) (frame frame' : Frame) : Prop where
  bindings : ∀ name, Option.Rel (SameMacro macros) (frame.bindings.find? name)
    (frame'.bindings.find? name)
  parent : frame.parent = none
  parent' : frame'.parent = none

section

variable {macros : FrameId} {machine machine' : Machine}

/-- One macro bound on both sides. -/
theorem SameMacros.bind {frame frame' : Frame} (same : SameMacros macros frame frame')
    {name : String} {value value' : Value} (code : SameMacro macros value value') :
    SameMacros macros (frame.bind name value) (frame'.bind name value') := by
  refine ⟨fun other => ?_, same.parent, same.parent'⟩
  rw [Frame.bind, Frame.bind]
  by_cases again : other = name
  · rw [again, Table.find?_set_self, Table.find?_set_self]
    exact .some code
  · rw [Table.find?_set_of_ne again, Table.find?_set_of_ne again]
    exact same.bindings other

/-- The macros of a program defined on both sides. -/
theorem sameMacros_defineMacros : ∀ (program : Program) {machine machine' : Machine},
    Option.Rel (SameMacros macros) (machine.store.frame? macros) (machine'.store.frame? macros) →
      Option.Rel (SameMacros macros) ((defineMacros macros program machine).2.store.frame? macros)
        ((defineMacros macros program machine').2.store.frame? macros)
  | [], _, _, same => same
  | first :: rest, _, _, same => by
    cases defines : first.definesMacro with
    | false =>
        rw [defineMacros_cons defines, defineMacros_cons defines]
        exact sameMacros_defineMacros rest same
    | true =>
        obtain ⟨name, parameters, body, rfl⟩ := Statement.eq_of_definesMacro defines
        rw [defineMacros, defineMacros]
        refine sameMacros_defineMacros rest ?_
        rw [Machine.defineMacro, Machine.defineMacro, Store.frame?_bind_self, Store.frame?_bind_self]
        exact rel_map same fun same => same.bind (.intro parameters body _ _)

end

/-! ## The definitions of a text -/

theorem Program.definitions_definesMacro (program : Program) :
    ∀ statement ∈ program.definitions, statement.definesMacro = true :=
  fun _ mem => (List.mem_filter.mp mem).2

theorem Program.Renderable.definitions {program : Program} (renderable : program.Renderable) :
    program.definitions.Renderable :=
  statementsRenderable_iff.mpr fun statement mem =>
    statementsRenderable_iff.mp renderable statement (List.mem_filter.mp mem).1

/-- The text of the macro definitions of a text; none if the text does not parse. -/
def definitionsText? (text : String) : Option String :=
  if (parseText text).diagnostics.isEmpty then
    some (parseText text).program.definitions.render
  else
    none

theorem definitionsText?_render {program : Program} (renderable : program.Renderable) :
    definitionsText? program.render = some program.definitions.render := by
  have parsed : parseText program.render = ⟨program, []⟩ := parseText_renderStatements renderable
  rw [definitionsText?, parsed]
  rfl

/-! ## Sessions with the same macros -/

namespace Session

/-- Both sessions have their macros in the same frame, and the same ones. -/
structure Alike (session fresh : Session) : Prop where
  apart : session.Apart
  apart' : fresh.Apart
  macros : fresh.macros = session.macros
  same : Option.Rel (SameMacros session.macros) (session.machine.store.frame? session.macros)
    (fresh.machine.store.frame? session.macros)

theorem alike_initial : initial.Alike initial :=
  ⟨apart_initial, apart_initial, rfl, .some ⟨fun _ => .none, rfl, rfl⟩⟩

/-- A session that reads definitions does nothing but define the macros. -/
theorem read_definitions (depth : Nat) (session : Session) {program : Program}
    (renderable : program.Renderable) :
    session.read depth program.definitions.render =
      some (.silent, { session with
        machine := (defineMacros session.macros program session.machine).2 }) := by
  have defines : defineMacros session.macros program.definitions session.machine =
      ([], (defineMacros session.macros program session.machine).2) :=
    Prod.ext (program_defineMacros_of_all program.definitions_definesMacro _)
      (machine_defineMacros program _).symm
  rw [read_render depth session renderable.definitions, execute, defines]
  rfl

variable {session fresh after : Session}

/-- What a text does to the macros of a session, its definitions do to the macros of a session with
the same ones. -/
theorem Alike.read (alike : session.Alike fresh) {depth : Nat} {text : String} {outcome : Outcome}
    (parses : (parseText text).diagnostics = [])
    (reads : session.read depth text = some (outcome, after)) :
    after.Alike { fresh with
      machine := (defineMacros fresh.macros (parseText text).program fresh.machine).2 } := by
  have executes : session.execute depth (parseText text).program = some (outcome, after) := by
    rcases of_read_eq reads with ⟨_, executes⟩ | ⟨malformed, _⟩
    · exact executes
    · exact absurd parses malformed
  have kept := alike.apart.execute executes
  have same := sameMacros_defineMacros (parseText text).program alike.same
  refine ⟨alike.apart.read reads, ⟨alike.apart'.distinct, ?_⟩,
    alike.macros.trans kept.macros.symm, ?_⟩
  · rw [size_defineMacros]
    exact alike.apart'.present
  · rw [kept.macros, kept.frame, alike.macros]
    exact same

/-- Sessions that read texts, and their definitions alone, have the same macros. -/
theorem Alike.reads {texts : List String} (alike : session.Alike fresh)
    (reads : session.Reads texts after) :
    ∃ defined, (∀ other, fresh.Reads (texts.filterMap definitionsText?) other ↔ other = defined) ∧
      after.Alike defined := by
  induction reads generalizing fresh with
  | nothing => exact ⟨fresh, fun _ => reads_nil_iff, alike⟩
  | @text session middle after depth text texts outcome first _ ih =>
      rcases of_read_eq first with ⟨parses, _⟩ | ⟨malformed, _, rfl⟩
      · obtain ⟨defined, unique, done⟩ := ih (alike.read parses first)
        refine ⟨defined, fun other => ?_, done⟩
        have given : definitionsText? text = some (parseText text).program.definitions.render :=
          if_pos (List.isEmpty_iff.mpr parses)
        rw [List.filterMap_cons_some given, reads_cons_iff, ← unique]
        have defines := fun depth => read_definitions depth fresh (renderable_parseText text)
        constructor
        · rintro ⟨_, ⟨depth, outcome, read⟩, others⟩
          cases (defines depth).symm.trans read
          exact others
        · intro others
          exact ⟨_, ⟨0, _, defines 0⟩, others⟩
      · have left : definitionsText? text = none := if_neg (mt List.isEmpty_iff.mp malformed)
        rw [List.filterMap_cons_none left]
        exact ih alike

/-! ## Two macro passes -/

/-- The runs of sessions with the same macros, as they correspond: only the frame of the macros is
shared. -/
def Alike.correspondence (alike : session.Alike fresh) : Correspondence where
  trees := .all
  errors := True
  visible _ := True
  visible_of_name _ := trivial
  visible_quote := trivial
  left := session.machine
  right := fresh.machine
  shared id := id = session.macros
  shared_lt := by
    rintro _ rfl
    refine ⟨alike.apart.present, ?_⟩
    rw [← alike.macros]
    exact alike.apart'.present

theorem Alike.frames (alike : session.Alike fresh) :
    alike.correspondence.Frames session.macros fresh.macros :=
  .inl ⟨rfl, alike.macros.symm⟩

theorem Alike.contents (alike : session.Alike fresh) {frame frame' : Frame}
    (same : SameMacros session.macros frame frame') :
    alike.correspondence.Contents frame frame' := by
  constructor
  · intro name _
    refine rel_imp (same.bindings name) ?_
    rintro _ _ ⟨⟩
    exact .macroValue ⟨rfl, rfl, fun _ _ => trivial, trivial, .inl ⟨rfl, rfl⟩⟩
  · rw [same.parent, same.parent']
    exact .none

/-- The sessions themselves correspond. -/
theorem Alike.machines (alike : session.Alike fresh) :
    alike.correspondence.Machines session.machine fresh.machine where
  opened := ⟨0, rfl, rfl⟩
  contents := by
    rintro _ _ (⟨rfl, rfl⟩ | ⟨opened, rfl, rfl⟩)
    · exact rel_imp alike.same alike.contents
    · have missing : session.machine.store.frame? (session.machine.store.size + opened) = none :=
        Store.frame?_eq_none (Nat.le_add_right _ opened)
      have missing' : fresh.machine.store.frame? (fresh.machine.store.size + opened) = none :=
        Store.frame?_eq_none (Nat.le_add_right _ opened)
      rw [correspondence, missing, missing']
      exact .none
  printed := ⟨"", (String.append_empty).symm, (String.append_empty).symm⟩

end Session

/-- The same program or the same error, after the same text was printed. -/
structure SamePass (session fresh : Session) (pass pass' : Ending Program × Machine) : Prop where
  endings : (∃ program, pass.1 = .value program ∧ pass'.1 = .value program) ∨
    ∃ cause, pass.1 = .failed cause ∧ pass'.1 = .failed cause
  printed : ∃ text, pass.2.printed = session.machine.printed ++ text ∧
    pass'.2.printed = fresh.machine.printed ++ text

/-- Sessions with the same macros make the same of every program. -/
theorem Session.Alike.macroPass {session fresh : Session} (alike : session.Alike fresh) (depth : Nat)
    (program : Program) :
    Option.Rel (SamePass session fresh) (session.macroPass depth program)
      (fresh.macroPass depth program) := by
  obtain ⟨⟨rest, inside⟩, machines⟩ :=
    @Machines.defineMacros _ _ _ alike.frames program trivial _ _ alike.machines
  have passes := runs_expandMacros depth alike.frames inside _ _ machines
  rw [Session.macroPass, Session.macroPass, rest]
  generalize run : expandMacros depth session.macros
    (defineMacros session.macros program session.machine).1
    (defineMacros session.macros program session.machine).2 = pass at passes ⊢
  generalize expandMacros depth fresh.macros
    (defineMacros session.macros program session.machine).1
    (defineMacros fresh.macros program fresh.machine).2 = pass' at passes ⊢
  cases passes with
  | none => exact .none
  | @some pass pass' reached =>
      refine .some ⟨?_, reached.machines.printed⟩
      obtain ⟨ending, after⟩ := pass
      obtain ⟨ending', after'⟩ := pass'
      have endings := reached.endings
      cases endings with
      | value same =>
          obtain ⟨rfl, _⟩ := same
          exact .inl ⟨_, rfl, rfl⟩
      | returned values =>
          rcases (expands_expandMacros depth session.macros _).settles _ _ _ run with
            ⟨_, same, _⟩ | ⟨_, same⟩ <;> cases same
      | failed cause => exact .inr ⟨cause, rfl, rfl⟩

/-- **The macro pass is separate from evaluation.** Whatever texts a session has read, it makes the
same of every program as a new session that has read the macro definitions of these texts and
nothing else. Running a program changes nothing in the frame of the macros, executing one leaves
this frame as the definitions of the program left it, and expanding one, on whatever machine,
changes no frame that was there before. -/
theorem phases_separate {texts : List String} {session : Session}
    (reads : Session.initial.Reads texts session) :
    (∃ fresh, (∀ other, Session.initial.Reads (texts.filterMap definitionsText?) other ↔
        other = fresh) ∧
      ∀ depth program, Option.Rel (SamePass session fresh) (session.macroPass depth program)
        (fresh.macroPass depth program)) ∧
    (∀ depth program outcome after, session.run depth program = some (outcome, after) →
      after.machine.store.frame? session.macros = session.machine.store.frame? session.macros) ∧
    (∀ depth program outcome after, session.execute depth program = some (outcome, after) →
      after.machine.store.frame? session.macros =
        (defineMacros session.macros program session.machine).2.store.frame? session.macros) ∧
    ∀ depth program machine ending after,
      expandMacros depth session.macros program machine = some (ending, after) →
        machine.store.Extends after.store := by
  obtain ⟨fresh, unique, alike⟩ := Session.alike_initial.reads reads
  refine ⟨⟨fresh, unique, alike.macroPass⟩, ?_, ?_, ?_⟩
  · exact fun depth program outcome after runs => (alike.apart.run runs).frame
  · exact fun depth program outcome after executes => (alike.apart.execute executes).frame
  · exact fun depth program machine ending after expands =>
      (expands_expandMacros depth session.macros program).keeps expands

/-- `let one = macro() { puts(1); quote(1) }; puts(0)`. -/
def definingOne : Program :=
  [.bind "one" (.macroLiteral []
      [.evaluate (.call (.identifier "puts") [.integer 1]),
        .evaluate (.call (.identifier "quote") [.integer 1])]),
    .evaluate (.call (.identifier "puts") [.integer 0])]

/-- After the definition of `one`, and a text that fails, the expansion of `one()` prints 1 and gives
the number 1. It does so in a session that has read the definition alone. -/
theorem phases_separate_printing :
    ∃ session fresh after after',
      Session.initial.Reads
        ["let one = macro() \x7b puts(1); quote(1) \x7d; puts(0)", "one"] session ∧
      Session.initial.Reads ["let one = macro() \x7b puts(1); quote(1) \x7d;", ""] fresh ∧
      session.macroPass 3 [.evaluate (.call (.identifier "one") [])] =
        some (.value [.evaluate (.integer 1)], after) ∧
      fresh.macroPass 3 [.evaluate (.call (.identifier "one") [])] =
        some (.value [.evaluate (.integer 1)], after') ∧
      after.printed = "0\n1\n" ∧
      ∃ text, after.printed = session.machine.printed ++ text ∧
        after'.printed = fresh.machine.printed ++ text := by
  have text : definingOne.render = "let one = macro() \x7b puts(1); quote(1) \x7d; puts(0)" := by
    with_unfolding_all rfl
  have text' : Program.render [.evaluate (.identifier "one")] = "one" := by with_unfolding_all rfl
  have one : IsName "one" := by decide
  have puts : IsName "puts" := by decide
  have quote : IsName "quote" := by decide
  have renderable : definingOne.Renderable :=
    ⟨⟨one, fun _ mem => absurd mem List.not_mem_nil,
      ⟨puts, trivial, trivial⟩, ⟨quote, trivial, trivial⟩, trivial⟩,
      ⟨puts, trivial, trivial⟩, trivial⟩
  have renderable' : Program.Renderable [.evaluate (.identifier "one")] := ⟨one, trivial⟩
  have passed : ((Session.initial.execute 4 definingOne).bind fun reached =>
      (reached.2.execute 4 [.evaluate (.identifier "one")]).bind fun reached =>
        (reached.2.macroPass 3 [.evaluate (.call (.identifier "one") [])]).map fun pass =>
          (pass.1, pass.2.printed)) = some (.value [.evaluate (.integer 1)], "0\n1\n") := by
    with_unfolding_all rfl
  obtain ⟨⟨_, middle⟩, first, passed⟩ := Option.bind_eq_some_iff.mp passed
  obtain ⟨⟨_, session⟩, second, passed⟩ := Option.bind_eq_some_iff.mp passed
  obtain ⟨⟨ending, after⟩, pass, same⟩ := Option.map_eq_some_iff.mp passed
  obtain ⟨rfl, printed⟩ := Prod.mk.inj same
  rw [← Session.read_render _ _ renderable, text] at first
  rw [← Session.read_render _ _ renderable', text'] at second
  have reads := Session.Reads.text first (.text second (.nothing _))
  obtain ⟨⟨fresh, unique, agree⟩, -⟩ := phases_separate reads
  have definitions : [definingOne.render, Program.render [.evaluate (.identifier "one")]].filterMap
      definitionsText? = ["let one = macro() \x7b puts(1); quote(1) \x7d;", ""] := by
    simp only [List.filterMap, definitionsText?_render renderable,
      definitionsText?_render renderable']
    with_unfolding_all rfl
  rw [text, text'] at definitions
  rw [definitions] at unique
  have passes := agree 3 [.evaluate (.call (.identifier "one") [])]
  rw [pass] at passes
  generalize pass' : fresh.macroPass 3 [.evaluate (.call (.identifier "one") [])] = found at passes
  cases passes with
  | @some _ passed' same =>
      obtain ⟨_, after'⟩ := passed'
      rcases same.endings with ⟨_, ⟨⟩, rfl⟩ | ⟨_, ended, _⟩
      · exact ⟨session, fresh, after, after', reads, (unique fresh).mpr rfl, pass, pass', printed,
          same.printed⟩
      · cases ended

end MonkeyLang
