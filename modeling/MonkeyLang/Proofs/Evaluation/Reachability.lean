import MonkeyLang.Proofs.Evaluation.CorrespondingRuns

/-!
# What a value and a frame lead to

A value leads to its elements and entries, and a closure leads to what its frame
binds; a frame leads to the values of its own names and to what its parent leads
to. On a machine that corresponds to itself, everything that a frame or a value
leads to keeps to the limits of the correspondence.
-/

set_option autoImplicit false

namespace MonkeyLang

mutual
/-- A frame leads to a value: the frame or one around it binds a name to a value that leads to
it. -/
inductive Store.Reaches (store : Store) : FrameId → Value → Prop where
  | bound {id : FrameId} {frame : Frame} {name : String} {value part : Value}
    (present : store.frame? id = some frame) (found : frame.bindings.find? name = some value)
    (leads : store.Leads value part) : Reaches store id part
  | outer {id parent : FrameId} {frame : Frame} {part : Value}
    (present : store.frame? id = some frame) (around : frame.parent = some parent)
    (reaches : store.Reaches parent part) : Reaches store id part

/-- A value leads to another one: to itself, to what its elements or entries lead to, and, if it is
a closure, to what its frame leads to. -/
inductive Store.Leads (store : Store) : Value → Value → Prop where
  | self (value : Value) : Leads store value value
  | element {elements : List Value} {element part : Value} (mem : element ∈ elements)
    (leads : store.Leads element part) : Leads store (.array elements) part
  | key {table : HashTable} {key : HashKey} {source stored part : Value}
    (mem : (key, (source, stored)) ∈ table) (leads : store.Leads source part) :
    Leads store (.hash table) part
  | entry {table : HashTable} {key : HashKey} {source stored part : Value}
    (mem : (key, (source, stored)) ∈ table) (leads : store.Leads stored part) :
    Leads store (.hash table) part
  | function {closure : Closure} {part : Value} (reaches : store.Reaches closure.frame part) :
    Leads store (.function closure) part
  | macroValue {closure : Closure} {part : Value} (reaches : store.Reaches closure.frame part) :
    Leads store (.macroValue closure) part
end

namespace Correspondence

variable {corr : Correspondence}

theorem Lists.self_of_mem {list : List Value} (lists : corr.Lists list list) {value : Value}
    (mem : value ∈ list) : corr.Values value value := by
  induction list with
  | nil => cases mem
  | cons first rest ih =>
      cases lists with
      | cons head tail =>
          rcases List.mem_cons.mp mem with rfl | mem
          · exact head
          · exact ih tail mem

theorem Entries.self_of_mem {table : HashTable} (entries : corr.Entries table table)
    {key : HashKey} {source stored : Value} (mem : (key, (source, stored)) ∈ table) :
    corr.Values source source ∧ corr.Values stored stored := by
  induction table with
  | nil => cases mem
  | cons first rest ih =>
      cases entries with
      | cons _ sources values tail =>
          rcases List.mem_cons.mp mem with same | mem
          · cases same
            exact ⟨sources, values⟩
          · exact ih tail mem

variable {machine : Machine}

mutual
/-- What a frame that corresponds to itself leads to corresponds to itself. -/
theorem Machines.values_of_reaches (machines : corr.Machines machine machine)
    (visible : ∀ name, corr.visible name) :
    ∀ {id : FrameId} {part : Value}, corr.Frames id id → machine.store.Reaches id part →
      corr.Values part part
  | _, _, frames, @Store.Reaches.bound _ _ _ name _ _ present found leads => by
    have contents := machines.contents frames
    rw [present] at contents
    cases contents with
    | some contents =>
        have values := contents.bindings (visible name)
        rw [found] at values
        cases values with
        | some values => exact machines.values_of_leads visible values leads
  | _, _, frames, .outer present around reaches => by
    have contents := machines.contents frames
    rw [present] at contents
    cases contents with
    | some contents =>
        have parents := contents.parents
        rw [around] at parents
        cases parents with
        | some frames => exact machines.values_of_reaches visible frames reaches

/-- What a value that corresponds to itself leads to corresponds to itself. -/
theorem Machines.values_of_leads (machines : corr.Machines machine machine)
    (visible : ∀ name, corr.visible name) :
    ∀ {value part : Value}, corr.Values value value → machine.store.Leads value part →
      corr.Values part part
  | _, _, values, .self _ => values
  | _, _, .array lists, .element mem leads =>
    machines.values_of_leads visible (lists.self_of_mem mem) leads
  | _, _, .hash entries, .key mem leads =>
    machines.values_of_leads visible (entries.self_of_mem mem).1 leads
  | _, _, .hash entries, .entry mem leads =>
    machines.values_of_leads visible (entries.self_of_mem mem).2 leads
  | _, _, .function closures, .function reaches =>
    machines.values_of_reaches visible closures.frames reaches
  | _, _, .macroValue closures, .macroValue reaches =>
    machines.values_of_reaches visible closures.frames reaches
end

end Correspondence

end MonkeyLang
