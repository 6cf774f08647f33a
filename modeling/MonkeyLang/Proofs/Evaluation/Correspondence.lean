import MonkeyLang.Evaluation.Computation
import MonkeyLang.Proofs.Store.Extension
import MonkeyLang.Proofs.Syntax.Traversing
import MonkeyLang.Value.BuiltinCall
import MonkeyLang.Value.Operation

/-!
# Corresponding values

Two runs may differ in what no program can tell apart: in the numbers of their
frames, in the stamps of their closures, and in what was printed before they
began. A correspondence says which frames of one run stand for which frames of
the other, and values correspond when they are the same data over corresponding
frames.

A correspondence also limits what values may hold: syntax of one class of trees,
and errors only if they are allowed. So a run that corresponds to itself is one
in which every value keeps to these limits, and what is shown of two runs here is
shown of one run as well. Names outside the class of trees may have bindings that
do not correspond, because no program in the class looks them up.

What corresponds is alike to every operation: it has the same kind, the same
truth, the same key and the same text, and operators, indexing and builtins take
corresponding values to corresponding results.
-/

set_option autoImplicit false

namespace MonkeyLang

/-! ## Optional values -/

section

variable {α β : Type} {related related' : α → β → Prop} {found : Option α} {found' : Option β}

theorem rel_imp (rel : Option.Rel related found found')
    (implies : ∀ {first second}, related first second → related' first second) :
    Option.Rel related' found found' := by
  cases rel with
  | none => exact .none
  | some holds => exact .some (implies holds)

theorem rel_map {f : α → α} {g : β → β} (rel : Option.Rel related found found')
    (maps : ∀ {first second}, related first second → related' (f first) (g second)) :
    Option.Rel related' (found.map f) (found'.map g) := by
  cases rel with
  | none => exact .none
  | some holds => exact .some (maps holds)

theorem rel_isSome (rel : Option.Rel related found found') : found.isSome = found'.isSome := by
  cases rel <;> rfl

end

/-! ## Correspondences -/

/-- How two runs correspond that began from two machines. -/
structure Correspondence where
  /-- The syntax that values may hold. -/
  trees : SyntaxClass
  /-- Whether values may be errors. -/
  errors : Prop
  /-- The names whose bindings correspond. -/
  visible : String → Prop
  visible_of_name : ∀ {name}, trees.name name → visible name
  visible_quote : visible "quote"
  left : Machine
  right : Machine
  /-- The frames that were there before and have the same number on both sides. -/
  shared : FrameId → Prop
  shared_lt : ∀ {id}, shared id → id < left.store.size ∧ id < right.store.size

namespace Correspondence

variable (corr : Correspondence)

/-- Frames that are shared, or that were opened as the same one since the runs began. -/
def Frames (frame frame' : FrameId) : Prop :=
  (corr.shared frame ∧ frame = frame') ∨
    ∃ opened, frame = corr.left.store.size + opened ∧ frame' = corr.right.store.size + opened

/-- Closures with the same code in corresponding frames. -/
structure Closures (closure closure' : Closure) : Prop where
  parameters : closure'.parameters = closure.parameters
  body : closure'.body = closure.body
  names : ∀ parameter ∈ closure.parameters, corr.trees.name parameter
  statements : corr.trees.statements closure.body
  frames : corr.Frames closure.frame closure'.frame

mutual
/-- The same data over corresponding frames. -/
inductive Values : Value → Value → Prop where
  | integer (value : Int64) : Values (.integer value) (.integer value)
  | boolean (value : Bool) : Values (.boolean value) (.boolean value)
  | string (text : String) : Values (.string text) (.string text)
  | null : Values .null .null
  | array {elements elements' : List Value} (lists : Lists elements elements') :
    Values (.array elements) (.array elements')
  | hash {table table' : HashTable} (entries : Entries table table') :
    Values (.hash table) (.hash table')
  | function {closure closure' : Closure} (closures : corr.Closures closure closure') :
    Values (.function closure) (.function closure')
  | builtin (builtin : Builtin) : Values (.builtin builtin) (.builtin builtin)
  | error (allowed : corr.errors) (cause : RuntimeError) : Values (.error cause) (.error cause)
  | quote {node : Expression} (inside : corr.trees.expression node) :
    Values (.quote node) (.quote node)
  | macroValue {closure closure' : Closure} (closures : corr.Closures closure closure') :
    Values (.macroValue closure) (.macroValue closure')

/-- Values that correspond one by one. -/
inductive Lists : List Value → List Value → Prop where
  | nil : Lists [] []
  | cons {first first' : Value} {rest rest' : List Value} (head : Values first first')
    (tail : Lists rest rest') : Lists (first :: rest) (first' :: rest')

/-- Entries with the same keys that correspond one by one. -/
inductive Entries : HashTable → HashTable → Prop where
  | nil : Entries [] []
  | cons (key : HashKey) {source source' stored stored' : Value} {rest rest' : HashTable}
    (sources : Values source source') (values : Values stored stored')
    (tail : Entries rest rest') :
    Entries ((key, (source, stored)) :: rest) ((key, (source', stored')) :: rest')
end

variable {corr}

/-! ## Lists and entries -/

namespace Lists

theorem length_eq {list list' : List Value} (lists : corr.Lists list list') :
    list'.length = list.length := by
  induction list generalizing list' with
  | nil =>
      cases lists
      rfl
  | cons first rest ih =>
      cases lists with
      | cons _ tail => rw [List.length_cons, List.length_cons, ih tail]

theorem getElem? {list list' : List Value} (lists : corr.Lists list list') (position : Nat) :
    Option.Rel corr.Values list[position]? list'[position]? := by
  induction list generalizing list' position with
  | nil =>
      cases lists
      exact .none
  | cons first rest ih =>
      cases lists with
      | cons head tail =>
          cases position with
          | zero => exact .some head
          | succ position => exact ih tail position

theorem append {first first' rest rest' : List Value} (left : corr.Lists first first')
    (right : corr.Lists rest rest') : corr.Lists (first ++ rest) (first' ++ rest') := by
  induction first generalizing first' with
  | nil =>
      cases left
      exact right
  | cons _ _ ih =>
      cases left with
      | cons head tail => exact .cons head (ih tail)

end Lists

theorem Values.getD {found found' : Option Value} (values : Option.Rel corr.Values found found') :
    corr.Values (found.getD .null) (found'.getD .null) := by
  cases values with
  | some value => exact value
  | none => exact .null

namespace Entries

variable {table table' : HashTable}

/-- Setting one key on both sides. -/
theorem set (entries : corr.Entries table table') (key : HashKey)
    {source source' stored stored' : Value} (sources : corr.Values source source')
    (values : corr.Values stored stored') :
    corr.Entries (table.set key (source, stored)) (table'.set key (source', stored')) := by
  induction table generalizing table' with
  | nil =>
      cases entries
      exact .cons key sources values .nil
  | cons entry rest ih =>
      cases entries with
      | cons first sources' values' tail =>
          simp only [Table.set]
          split
          · exact .cons key sources values tail
          · split
            · exact .cons key sources values (.cons first sources' values' tail)
            · exact .cons first sources' values' (ih tail)

theorem find? (entries : corr.Entries table table') (key : HashKey) :
    Option.Rel corr.Values ((Table.find? key table).map Prod.snd)
      ((Table.find? key table').map Prod.snd) := by
  induction table generalizing table' with
  | nil =>
      cases entries
      exact .none
  | cons entry rest ih =>
      cases entries with
      | cons first sources values tail =>
          simp only [Table.find?]
          split
          · exact .some values
          · exact ih tail

end Entries

/-! ## What operations see of a value -/

namespace Values

variable {value value' : Value}

theorem kind_eq (values : corr.Values value value') : value'.kind = value.kind := by
  cases values <;> rfl

theorem isTruthy_eq (values : corr.Values value value') : value'.isTruthy = value.isTruthy := by
  cases values <;> rfl

theorem isTruthValue_eq (values : corr.Values value value') :
    value'.isTruthValue = value.isTruthValue := by
  cases values <;> rfl

/-- Where errors are not allowed, no value is one. -/
theorem isError_eq_false (values : corr.Values value value') (none : ¬ corr.errors) :
    value.isError = false := by
  cases values with
  | error allowed => exact absurd allowed none
  | _ => rfl

theorem hashKey_eq (values : corr.Values value value') : value'.hashKey = value.hashKey := by
  cases values <;> rfl

/-- Booleans and null correspond only to themselves. -/
theorem eq_of_isTruthValue (values : corr.Values value value')
    (truth : value.isTruthValue = true) : value' = value := by
  cases values <;> first | rfl | cases truth

end Values

mutual
/-- Values that correspond are shown by the same text. -/
theorem Values.display_eq : ∀ {value value' : Value}, corr.Values value value' →
    value'.display = value.display
  | _, _, .integer _ | _, _, .boolean _ | _, _, .string _ | _, _, .null | _, _, .builtin _
  | _, _, .error _ _ | _, _, .quote _ => rfl
  | _, _, .array lists => by rw [Value.display, Value.display, lists.displayList_eq]
  | _, _, .hash entries => by rw [Value.display, Value.display, entries.displayEntries_eq]
  | _, _, .function closures | _, _, .macroValue closures => by
    rw [Value.display, Value.display, closures.parameters, closures.body]

theorem Lists.displayList_eq : ∀ {list list' : List Value}, corr.Lists list list' →
    Value.displayList list' = Value.displayList list
  | _, _, .nil => rfl
  | _, _, .cons head tail => by
    rw [Value.displayList, Value.displayList, head.display_eq, tail.displayList_eq]

theorem Entries.displayEntries_eq : ∀ {table table' : HashTable}, corr.Entries table table' →
    Value.displayEntries table' = Value.displayEntries table
  | _, _, .nil => rfl
  | _, _, .cons _ sources values tail => by
    rw [Value.displayEntries, Value.displayEntries, sources.display_eq, values.display_eq,
      tail.displayEntries_eq]
end

/-! ## Operations -/

/-- Results of which the property holds, or the same error. -/
inductive Results {α : Type} (related : α → α → Prop) :
    Except RuntimeError α → Except RuntimeError α → Prop where
  | ok {result result' : α} (holds : related result result') :
    Results related (.ok result) (.ok result')
  | error (cause : RuntimeError) : Results related (.error cause) (.error cause)

theorem Results.bind {α β : Type} {related : α → α → Prop} {related' : β → β → Prop}
    {first first' : Except RuntimeError α} {next next' : α → Except RuntimeError β}
    (results : Results related first first')
    (others : ∀ result result', related result result' →
      Results related' (next result) (next' result')) :
    Results related' (first >>= next) (first' >>= next') := by
  cases results with
  | ok holds => exact others _ _ holds
  | error cause => exact .error cause

theorem Results.of_eq {α : Type} {result result' : Except RuntimeError α}
    (same : result' = result) : Results (fun first second : α => second = first) result result' := by
  subst same
  cases result' with
  | ok => exact .ok rfl
  | error cause => exact .error cause

/-- The same tree, and it is in the class. -/
def Same {α : Type} (inside : α → Prop) (tree tree' : α) : Prop :=
  tree' = tree ∧ inside tree

section Operations

variable {value value' : Value}

theorem results_toSyntax (values : corr.Values value value') :
    Results (Same corr.trees.expression) value.toSyntax value'.toSyntax := by
  cases values with
  | integer number => exact .ok ⟨rfl, corr.trees.integer number⟩
  | boolean truth => exact .ok ⟨rfl, corr.trees.boolean truth⟩
  | quote inside => exact .ok ⟨rfl, inside⟩
  | _ => exact .error _

theorem results_applyUnary (operator : UnaryOperator) (values : corr.Values value value') :
    Results corr.Values (value.applyUnary operator) (value'.applyUnary operator) := by
  cases operator with
  | not =>
      rw [Value.applyUnary, Value.applyUnary, values.isTruthy_eq]
      exact .ok (.boolean _)
  | negate =>
      cases values with
      | integer number => exact .ok (.integer _)
      | _ => exact .error _

theorem results_applyToIntegers (left : Int64) (operator : BinaryOperator) (right : Int64) :
    Results corr.Values (Value.applyToIntegers left operator right)
      (Value.applyToIntegers left operator right) := by
  cases operator with
  | add | subtract | multiply => exact .ok (.integer _)
  | divide =>
      rw [Value.applyToIntegers]
      split
      · exact .error _
      · exact .ok (.integer _)
  | less | greater | equal | notEqual => exact .ok (.boolean _)

theorem results_applyToStrings (left : String) (operator : BinaryOperator) (right : String) :
    Results corr.Values (Value.applyToStrings left operator right)
      (Value.applyToStrings left operator right) := by
  cases operator with
  | add => exact .ok (.string _)
  | equal | notEqual => exact .ok (.boolean _)
  | _ => exact .error _

theorem results_applyBinary {left left' right right' : Value} (operator : BinaryOperator)
    (first : corr.Values left left') (second : corr.Values right right') :
    Results corr.Values (left.applyBinary operator right) (left'.applyBinary operator right') := by
  -- What is left when the operands are neither two integers nor two strings.
  have others : Results corr.Values
      (if left.isTruthValue && right.isTruthValue && operator.isEquality then
        .ok (.boolean (left.equal right == decide (operator = .equal)))
      else
        .error (Value.binaryError left operator right))
      (if left'.isTruthValue && right'.isTruthValue && operator.isEquality then
        .ok (.boolean (left'.equal right' == decide (operator = .equal)))
      else
        .error (Value.binaryError left' operator right')) := by
    rw [first.isTruthValue_eq, second.isTruthValue_eq, Value.binaryError, Value.binaryError,
      first.kind_eq, second.kind_eq]
    split
    · next both =>
      simp only [Bool.and_eq_true] at both
      rw [first.eq_of_isTruthValue both.1.1, second.eq_of_isTruthValue both.1.2]
      exact .ok (.boolean _)
    · exact .error _
  cases first with
  | integer number =>
      cases second with
      | integer number' => exact results_applyToIntegers number operator number'
      | _ => exact others
  | string text =>
      cases second with
      | string text' => exact results_applyToStrings text operator text'
      | _ => exact others
  | _ => exact others

theorem results_applyIndex {position position' : Value} (first : corr.Values value value')
    (second : corr.Values position position') :
    Results corr.Values (value.applyIndex position) (value'.applyIndex position') := by
  cases first with
  | array lists =>
      cases second with
      | integer number =>
          refine .ok (Values.getD ?_)
          rw [Value.elementAt?, Value.elementAt?]
          split
          · exact .none
          · exact lists.getElem? _
      | _ => exact .error _
  | hash entries =>
      refine (Results.of_eq second.hashKey_eq).bind ?_
      rintro key _ rfl
      exact .ok (Values.getD (entries.find? _))
  | _ =>
      cases second <;> exact .error _

end Operations

/-! ## Builtins -/

section Builtins

variable {arguments arguments' : List Value}

theorem results_onlyArgument (lists : corr.Lists arguments arguments') :
    Results corr.Values (Builtin.onlyArgument arguments) (Builtin.onlyArgument arguments') := by
  have lengths := lists.length_eq
  cases lists with
  | nil => exact .error _
  | cons head tail =>
      cases tail with
      | nil => exact .ok head
      | cons _ _ =>
          rw [Builtin.onlyArgument, Builtin.onlyArgument, lengths]
          · exact .error _
          all_goals rintro _ ⟨⟩

theorem results_elementsOf (builtin : Builtin) {value value' : Value}
    (values : corr.Values value value') :
    Results corr.Lists (builtin.elementsOf value) (builtin.elementsOf value') := by
  cases values with
  | array lists => exact .ok lists
  | _ => exact .error _

theorem results_length {value value' : Value} (values : corr.Values value value') :
    Results corr.Values (Builtin.length value) (Builtin.length value') := by
  cases values with
  | string text => exact .ok (.integer _)
  | array lists =>
      rw [Builtin.length, Builtin.length, lists.length_eq]
      exact .ok (.integer _)
  | _ => exact .error _

/-- Builtins take corresponding arguments to corresponding results. -/
theorem results_apply (builtin : Builtin) (lists : corr.Lists arguments arguments') :
    Results corr.Values (builtin.apply arguments) (builtin.apply arguments') := by
  have single := results_onlyArgument lists
  cases builtin with
  | len => exact single.bind fun _ _ values => results_length values
  | first =>
      refine single.bind fun _ _ values => (results_elementsOf .first values).bind ?_
      intro _ _ elements
      rw [List.head?_eq_getElem?, List.head?_eq_getElem?]
      exact .ok (Values.getD (elements.getElem? 0))
  | last =>
      refine single.bind fun _ _ values => (results_elementsOf .last values).bind ?_
      intro _ _ elements
      rw [List.getLast?_eq_getElem?, List.getLast?_eq_getElem?, elements.length_eq]
      exact .ok (Values.getD (elements.getElem? _))
  | rest =>
      refine single.bind fun _ _ values => (results_elementsOf .rest values).bind ?_
      intro _ _ elements
      cases elements with
      | nil => exact .ok .null
      | cons _ tail => exact .ok (.array tail)
  | push =>
      have lengths := lists.length_eq
      cases lists with
      | nil => exact .error _
      | cons collection others =>
          cases others with
          | nil => exact .error _
          | cons element more =>
              cases more with
              | nil =>
                  refine (results_elementsOf .push collection).bind ?_
                  intro _ _ elements
                  exact .ok (.array (elements.append (.cons element .nil)))
              | cons _ _ =>
                  simp only [Builtin.apply, lengths]
                  exact .error _
  | puts => exact .ok .null

/-- Builtins print the same for corresponding arguments. -/
theorem prints_eq (builtin : Builtin) (lists : corr.Lists arguments arguments') :
    builtin.prints arguments' = builtin.prints arguments := by
  cases builtin with
  | puts =>
      rw [Builtin.prints, Builtin.prints]
      induction arguments generalizing arguments' with
      | nil =>
          cases lists
          rfl
      | cons first rest ih =>
          cases lists with
          | cons head tail =>
              rw [Builtin.lines, Builtin.lines, List.foldr_cons, List.foldr_cons, head.display_eq]
              exact congrArg (first.display ++ "\n" ++ ·) (ih tail)
  | _ => rfl

end Builtins

end Correspondence

end MonkeyLang
