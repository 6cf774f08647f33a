import MonkeyLang.Proofs.Evaluation.Attaining

/-!
# Functions that take functions

`map` and `reduce` are not builtins: they are written in the language, each as a function
that makes a function `iter` of its own and calls it on the array. `iter` finds itself by
its name in the frame that it was made in.

Both are the same fold with another next state. Its one step is what the callback attains
on a state and an element; from it, by induction on the array, the whole call attains the
fold of the list (`attains_iteration`, `attains_fold`). For `map` the state is the list of
values so far, and for `reduce` it is the result so far (`attains_map`, `attains_reduce`).
-/

set_option autoImplicit false

namespace MonkeyLang.HigherOrder

/-! ## Folding an array in the language -/

/-- `if (len(arr) == 0) { state } else { iter(rest(arr), next) }`. -/
def iterationBody (state : String) (next : Expression) : Block :=
  [.evaluate (.conditional
    (.binary .equal (.call (.identifier "len") [.identifier "arr"]) (.integer 0))
    [.evaluate (.identifier state)]
    (some [.evaluate (.call (.identifier "iter")
      [.call (.identifier "rest") [.identifier "arr"], next])]))]

/-- `let iter = fn(arr, state) { .. }; iter(arr, first);`. -/
def foldBody (state : String) (first next : Expression) : Block :=
  [.bind "iter" (.function ["arr", state] (iterationBody state next)),
    .evaluate (.call (.identifier "iter") [.identifier "arr", first])]

/-- `push(acc, f(first(arr)))`. -/
def mapNext : Expression :=
  .call (.identifier "push")
    [.identifier "acc",
      .call (.identifier "f") [.call (.identifier "first") [.identifier "arr"]]]

/-- `f(result, first(arr))`. -/
def reduceNext : Expression :=
  .call (.identifier "f") [.identifier "result", .call (.identifier "first") [.identifier "arr"]]

/-- The function that applies another one to every element of an array. -/
def map : Expression :=
  .function ["arr", "f"] (foldBody "acc" (.array []) mapNext)

/-- The function that takes the elements of an array into a result one by one. -/
def reduce : Expression :=
  .function ["arr", "initial", "f"] (foldBody "result" (.identifier "initial") reduceNext)

/-- The closure that `map` makes in a frame. -/
def mapClosure (home : FrameId) (stamp : Nat) : Closure :=
  ⟨["arr", "f"], foldBody "acc" (.array []) mapNext, home, stamp⟩

/-- The closure that `reduce` makes in a frame. -/
def reduceClosure (home : FrameId) (stamp : Nat) : Closure :=
  ⟨["arr", "initial", "f"], foldBody "result" (.identifier "initial") reduceNext, home, stamp⟩

/-- A length is zero as a value only if it is zero. -/
theorem ofLength_equal_zero (length : Nat) :
    (Value.ofLength length).applyBinary .equal (.integer 0) =
      .ok (.boolean (decide (length = 0))) := by
  have same : (if length < 9223372036854775808 then Int64.ofNat length else Int64.maxValue) = 0 ↔
      length = 0 := by
    split
    · next fits =>
      constructor
      · intro zero
        have value := congrArg Int64.toInt zero
        rw [Int64.toInt_ofNat_of_lt fits] at value
        exact Int.ofNat_eq_zero.mp value
      · rintro rfl
        rfl
    · next large =>
      constructor
      · intro zero
        exact absurd zero (by decide)
      · rintro rfl
        exact absurd (by decide) large
  simp only [Value.ofLength, Value.applyBinary, Value.applyToIntegers]
  refine congrArg (Except.ok ∘ Value.boolean) ?_
  rw [Bool.eq_iff_iff, beq_iff_eq, decide_eq_true_iff, same]

/-! ## One call after the other -/

section Folding

variable {ε σ : Type} {element : ε → Value} {encoded : σ → Value} {step : σ → ε → σ}
  {state : String} {first next : Expression} {start : Machine} {scope : Scope}
  {frame : FrameId} {values : List Value} {x value : Value}

section Body

variable (sees : start.Sees frame scope) (leaves : scope.LeavesBuiltins)
include sees leaves

/-- The test of an iteration asks whether the array is empty. -/
theorem attains_test (array : scope "arr" = some (.array values)) :
    (Expression.binary .equal (.call (.identifier "len") [.identifier "arr"])
      (.integer 0)).Attains frame start (· = .boolean (decide (values.length = 0))) := by
  have measured : (Expression.call (.identifier "len") [.identifier "arr"]).Attains frame start
      (· = .ofLength values.length) :=
    .call_builtin sees (leaves .len) (.cons (.identifier sees array) .nil) rfl rfl
  exact .binary measured (.integer 0) (ofLength_equal_zero _)

/-- Where the array is not empty, `first(arr)` is its first element. -/
theorem attains_first (array : scope "arr" = some (.array (x :: values))) :
    (Expression.call (.identifier "first") [.identifier "arr"]).Attains frame start (· = x) :=
  .call_builtin sees (leaves .first) (.cons (.identifier sees array) .nil) rfl rfl

/-- An iteration on no elements attains the state. -/
theorem attains_iterationBody_nil (array : scope "arr" = some (.array []))
    (bound : scope state = some value) :
    Process.Attains (fun depth => (evaluate depth).block frame (iterationBody state next)) start
      (· = value) :=
  (Expression.Attains.conditional (attains_test sees leaves array) rfl
    (Expression.Attains.identifier sees bound).block).block

/-- An iteration on some elements attains what the call on the rest of them attains. -/
theorem attains_iterationBody_cons {callee : Value} {property : Value → Prop}
    (array : scope "arr" = some (.array (x :: values))) (itself : scope "iter" = some callee)
    (goes : next.Attains frame start (· = value))
    (calls : Process.Attains (fun depth => (evaluate depth).apply callee [.array values, value])
      start property) :
    Process.Attains (fun depth => (evaluate depth).block frame (iterationBody state next)) start
      property := by
  have tail : (Expression.call (.identifier "rest") [.identifier "arr"]).Attains frame start
      (· = .array values) :=
    .call_builtin sees (leaves .rest) (.cons (.identifier sees array) .nil) rfl rfl
  exact (Expression.Attains.conditional (attains_test sees leaves array) rfl
    (Expression.Attains.call_bound sees itself (by decide) (.cons tail (.cons goes .nil))
      calls).block).block

end Body

variable (other : state ∉ ["arr", "iter"]) (notBuiltin : Builtin.ofName? state = none)
include other notBuiltin

/-- **Iterating folds the list**, if what comes next attains one step of the fold in every call on
an array that is not empty. -/
theorem attains_iteration {home : FrameId} {stamp : Nat} (sees : start.Sees home scope)
    (leaves : scope.LeavesBuiltins) (itself : scope "iter" =
      some (.function ⟨["arr", state], iterationBody state next, home, stamp⟩))
    (steps : ∀ {frame : FrameId} {machine : Machine} (x : ε) (xs : List ε) (s : σ),
      start.Precedes machine → machine.Sees frame (scope.bindNames ["arr", state]
        [.array (element x :: xs.map element), encoded s]) →
          next.Attains frame machine (· = encoded (step s x)))
    (xs : List ε) : ∀ s : σ, Process.Attains (fun depth => (evaluate depth).apply
      (.function ⟨["arr", state], iterationBody state next, home, stamp⟩)
        [.array (xs.map element), encoded s]) start (· = encoded (xs.foldl step s)) := by
  simp only [List.mem_cons, List.not_mem_nil, or_false, not_or] at other
  obtain ⟨notArr, notIter⟩ := other
  -- What a call sees: its two parameters, and everything else from the frame around it.
  have array : ∀ value value', scope.bindNames ["arr", state] [value, value'] "arr" = some value :=
    fun value _ => (Scope.bind_of_ne (Ne.symm notArr)).trans Scope.bind_self
  have found : ∀ values, scope.bindNames ["arr", state] values "iter" = _ := fun values =>
    (Scope.bindNames_of_notMem (by simp [Ne.symm notIter]) values).trans itself
  have leaves' : ∀ values, (scope.bindNames ["arr", state] values).LeavesBuiltins := fun values =>
    leaves.bindNames _ values (List.forall_mem_cons.mpr ⟨rfl, List.forall_mem_singleton.mpr
      notBuiltin⟩)
  induction xs with
  | nil =>
      intro s
      refine Evaluator.attains_apply rfl sees fun _ inside => ?_
      exact attains_iterationBody_nil inside (leaves' _) (array _ _) Scope.bind_self
  | cons x xs ih =>
      intro s
      refine Evaluator.attains_apply rfl sees fun precedes inside => ?_
      exact attains_iterationBody_cons inside (leaves' _) (array _ _) (found _)
        (steps x xs s precedes inside) ((ih (step s x)).of_precedes precedes)

/-- **A function with such an iteration inside folds its array.** -/
theorem attains_fold {closure : Closure} {arguments : List Value} {inner : Scope}
    (body : closure.body = foldBody state first next)
    (arity : closure.parameters.length = arguments.length) (sees : start.Sees closure.frame scope)
    (binds : scope.bindNames closure.parameters arguments = inner) (leaves : inner.LeavesBuiltins)
    {xs : List ε} {s : σ} (array : inner "arr" = some (.array (xs.map element)))
    (begins : ∀ {frame : FrameId} {machine : Machine} {iter : Value}, start.Precedes machine →
      machine.Sees frame (inner.bind "iter" iter) → first.Attains frame machine (· = encoded s))
    (steps : ∀ {frame : FrameId} {machine : Machine} {iter : Value} (x : ε) (xs : List ε) (s : σ),
      start.Precedes machine → machine.Sees frame ((inner.bind "iter" iter).bindNames ["arr", state]
        [.array (element x :: xs.map element), encoded s]) →
          next.Attains frame machine (· = encoded (step s x))) :
    Process.Attains (fun depth => (evaluate depth).apply (.function closure) arguments) start
      (· = encoded (xs.foldl step s)) := by
  refine Evaluator.attains_apply_closure arity fun machine precedes => ?_
  have made : (Expression.function ["arr", state] (iterationBody state next)).Attains
      machine.store.size (machine.enter closure arguments) _ := .function _ _
  obtain ⟨_, middle, makes, more, stamp, rfl⟩ := made _ (.refl _)
  have entered := (Machine.Precedes.enter machine closure arguments).trans more
  let iter : Closure :=
    ⟨["arr", state], iterationBody state next, machine.store.size, stamp⟩
  -- The frame of the call is new, so `iter` is bound in no frame that was there.
  have later : machine.Precedes (middle.bind machine.store.size "iter" (.function iter)) :=
    entered.bind (Nat.le_refl _) _ _
  have inside : (middle.bind machine.store.size "iter" (.function iter)).Sees machine.store.size
      (inner.bind "iter" (.function iter)) := by
    rw [← binds]
    exact (((sees.of_precedes precedes).enter arguments).of_precedes more).bind _ _
  have iterates := attains_iteration other notBuiltin inside (leaves.bind _ _ rfl) Scope.bind_self
    (fun x xs s more => steps x xs s (precedes.trans (later.trans more))) xs s
  have calls : (Expression.call (.identifier "iter") [.identifier "arr", first]).Attains
      machine.store.size (middle.bind machine.store.size "iter" (.function iter))
        (· = encoded (xs.foldl step s)) :=
    .call_bound inside Scope.bind_self (by decide)
      (.cons (.identifier inside ((Scope.bind_of_ne (by decide)).trans array))
        (.cons (begins (precedes.trans later) inside) .nil)) iterates
  obtain ⟨value, after, ends, further, holds⟩ := calls.block _ (.refl _)
  refine ⟨value, after, ?_, later.trans further, holds⟩
  rw [body]
  exact ends_block_bind makes ends

end Folding

/-! ## Mapping and reducing -/

section Callbacks

variable {ε : Type} {element : ε → Value} {start : Machine} {scope : Scope} {home : FrameId}
  {stamp : Nat} {f : Value} (sees : start.Sees home scope) (leaves : scope.LeavesBuiltins)
include sees leaves

/-- **`map` maps**: on an array it attains the array of what the callback attains on each element,
in order. -/
theorem attains_map {image : ε → Value}
    (each : ∀ x, Process.Attains (fun depth => (evaluate depth).apply f [element x]) start
      (· = image x)) (xs : List ε) :
    Process.Attains (fun depth => (evaluate depth).apply (.function (mapClosure home stamp))
      [.array (xs.map element), f]) start (· = .array (xs.map image)) := by
  have folds : xs.foldl (fun acc x => acc ++ [image x]) [] = xs.map image := by
    rw [List.foldl_append_eq_append, List.nil_append, ← List.flatMap_def, List.map_eq_flatMap]
  rw [← folds]
  have leaves' := leaves.bindNames ["arr", "f"] [.array (xs.map element), f] (by decide)
  refine attains_fold (by decide) rfl rfl rfl sees rfl leaves' rfl (fun _ _ => .array .nil) ?_
  intro frame machine iter x xs acc precedes inside
  have leaves'' := (leaves'.bind "iter" iter rfl).bindNames ["arr", "acc"]
    [.array (element x :: xs.map element), .array acc] (by decide)
  have called : (Expression.call (.identifier "f")
      [.call (.identifier "first") [.identifier "arr"]]).Attains frame machine (· = image x) :=
    .call_bound inside rfl (by decide) (.cons (attains_first inside leaves'' rfl) .nil)
      ((each x).of_precedes precedes)
  exact .call_builtin inside (leaves'' .push) (.cons (.identifier inside rfl)
    (.cons called .nil)) rfl rfl

/-- **`reduce` folds**: from the initial result it attains the result into which the callback has
taken all elements, from the first to the last. -/
theorem attains_reduce {σ : Type} {encoded : σ → Value} {step : σ → ε → σ}
    (each : ∀ s x, Process.Attains (fun depth => (evaluate depth).apply f [encoded s, element x])
      start (· = encoded (step s x))) (xs : List ε) (s : σ) :
    Process.Attains (fun depth => (evaluate depth).apply (.function (reduceClosure home stamp))
      [.array (xs.map element), encoded s, f]) start (· = encoded (xs.foldl step s)) := by
  have leaves' := leaves.bindNames ["arr", "initial", "f"]
    [.array (xs.map element), encoded s, f] (by decide)
  refine attains_fold (by decide) rfl rfl rfl sees rfl leaves' rfl
    (fun _ inside => .identifier inside rfl) ?_
  intro frame machine iter x xs s precedes inside
  have leaves'' := (leaves'.bind "iter" iter rfl).bindNames ["arr", "result"]
    [.array (element x :: xs.map element), encoded s] (by decide)
  have head := attains_first inside leaves'' rfl
  exact .call_bound inside rfl (by decide) (.cons (.identifier inside rfl) (.cons head .nil))
    ((each s x).of_precedes precedes)

end Callbacks

end MonkeyLang.HigherOrder
