import MonkeyLang.Proofs.Store.Extension

/-!
# Lookups and the history of a store

Frames are shared. Several handles lead to one frame, a frame goes on seeing what is bound later in
the frames around it, and a name that it binds itself hides theirs from then on. So what a lookup
finds depends on everything that was done before, through whichever handle.

A history is such a sequence of operations on handles. The history alone, without a store, says
which frame a handle leads to, which frame stands around which, and what a name was bound to last
in a frame. The store keeps exactly this (`records_run`), by one law for each operation. As every
frame is younger than the one around it, the frames from a handle outwards are finitely many, and a
lookup finds what the name was bound to last in the first of them where it was ever bound
(`lookups_of_history`).
-/

set_option autoImplicit false

namespace MonkeyLang

namespace Store

/-! ## Links and bindings of frames -/

/-- The frame around a frame. -/
def outer? (store : Store) (id : FrameId) : Option FrameId :=
  (store.frame? id).bind Frame.parent

/-- What a frame itself binds a name to. -/
def bound? (store : Store) (id : FrameId) (name : String) : Option Value :=
  (store.frame? id).bind (·.bindings.find? name)

theorem outer?_lt {store : Store} {id parent : FrameId} (around : store.outer? id = some parent) :
    parent < id := by
  obtain ⟨frame, present, outer⟩ := Option.bind_eq_some_iff.mp around
  exact store.older id frame parent present outer

theorem outer?_openFrame (store : Store) (parent : Option FrameId) (id : FrameId) :
    (store.openFrame parent).outer? id =
      if id = store.size then parent.filter (· < store.size) else store.outer? id := by
  rw [outer?, frame?_openFrame]
  split
  · rfl
  · rfl

theorem bound?_openFrame (store : Store) (parent : Option FrameId) (id : FrameId) (name : String) :
    (store.openFrame parent).bound? id name = store.bound? id name := by
  rw [bound?, bound?, frame?_openFrame]
  split
  · next last =>
    rw [frame?_eq_none (Nat.le_of_eq last.symm)]
    rfl
  · rfl

theorem outer?_bind (store : Store) (id : FrameId) (name : String) (value : Value)
    (other : FrameId) : (store.bind id name value).outer? other = store.outer? other := by
  rw [outer?, outer?]
  by_cases same : other = id
  · subst same
    rw [frame?_bind_self]
    cases store.frame? other with
    | none => rfl
    | some frame => rfl
  · rw [frame?_bind_of_ne same]

theorem bound?_bind (store : Store) {id : FrameId} (old : id < store.size) (name : String)
    (value : Value) (other : FrameId) (wanted : String) :
    (store.bind id name value).bound? other wanted =
      if other = id ∧ wanted = name then some value else store.bound? other wanted := by
  rw [bound?, bound?]
  by_cases same : other = id
  · subst same
    obtain ⟨frame, present⟩ := Option.isSome_iff_exists.mp (frame?_isSome.mpr old)
    rw [frame?_bind_self, present]
    by_cases named : wanted = name
    · subst named
      rw [if_pos ⟨rfl, rfl⟩]
      exact Table.find?_set_self wanted value frame.bindings
    · rw [if_neg fun both => named both.2]
      exact Table.find?_set_of_ne named value frame.bindings
  · rw [frame?_bind_of_ne same, if_neg fun both => same both.1]

/-- A lookup finds what the frame binds the name to, or else what the frame around it sees. -/
theorem lookup?_eq (store : Store) (id : FrameId) (name : String) :
    store.lookup? id name =
      (store.bound? id name).or ((store.outer? id).bind (store.lookup? · name)) := by
  rw [bound?, outer?]
  cases present : store.frame? id with
  | none => exact lookup?_of_missing present name
  | some frame =>
      rw [Option.bind_some, Option.bind_some]
      cases bound : frame.bindings.find? name with
      | some value => exact lookup?_of_bound present bound
      | none =>
          cases outer : frame.parent with
          | none => exact lookup?_of_outermost present bound outer
          | some parent => exact lookup?_of_parent present bound outer

end Store

/-! ## Chains of frames -/

/-- The frames from one of them outwards to the outermost. -/
inductive Chain (outer : FrameId → Option FrameId) : FrameId → List FrameId → Prop
  | outermost {id : FrameId} : outer id = none → Chain outer id [id]
  | within {id parent : FrameId} {chain : List FrameId} :
      outer id = some parent → Chain outer parent chain → Chain outer id (id :: chain)

theorem Chain.unique {outer : FrameId → Option FrameId} {id : FrameId} {chain chain' : List FrameId}
    (first : Chain outer id chain) (second : Chain outer id chain') : chain = chain' := by
  induction first generalizing chain' with
  | outermost last =>
      cases second with
      | outermost => rfl
      | within around => cases last.symm.trans around
  | within around _ ih =>
      cases second with
      | outermost last => cases last.symm.trans around
      | within around' rest =>
          cases around.symm.trans around'
          rw [ih rest]

/-- There are at most as many frames outwards from one as were opened up to it. -/
theorem Store.exists_chain (store : Store) (id : FrameId) :
    ∃ chain, Chain store.outer? id chain ∧ chain.length ≤ id + 1 := by
  -- On the number of the frame: the frame around it has a smaller one.
  induction id using Nat.strongRecOn with
  | ind id ih =>
      cases around : store.outer? id with
      | none => exact ⟨[id], .outermost around, Nat.le_add_left _ _⟩
      | some parent =>
          have older : parent < id := Store.outer?_lt around
          obtain ⟨chain, links, short⟩ := ih parent older
          exact ⟨id :: chain, .within around links,
            Nat.succ_le_succ (Nat.le_trans short older)⟩

/-- A lookup finds what the first frame outwards that binds the name binds it to. -/
theorem Store.lookup?_of_chain {store : Store} {id : FrameId} {chain : List FrameId}
    (links : Chain store.outer? id chain) (name : String) :
    store.lookup? id name = chain.findSome? (store.bound? · name) := by
  induction links with
  | outermost last =>
      rw [Store.lookup?_eq, last, List.findSome?_singleton]
      exact Option.or_none
  | within around _ ih =>
      rw [Store.lookup?_eq, around, Option.bind_some, ih, List.findSome?_cons]
      cases store.bound? _ name with
      | none => rfl
      | some value => rfl

/-! ## Histories -/

/-- A store with the handles that were made on its frames, in the order in which they were made. -/
structure Handles (made : Nat) where
  store : Store
  frames : Vector FrameId made

namespace Handles

variable {made : Nat}

/-- No frames and no handles. -/
def empty : Handles 0 :=
  ⟨.empty, #v[]⟩

/-- A handle to a fresh frame, which may stand inside the frame of another handle. -/
def openFrame (handles : Handles made) (outer : Option (Fin made)) : Handles (made + 1) :=
  ⟨handles.store.openFrame (outer.map (handles.frames[·])), handles.frames.push handles.store.size⟩

/-- One more handle to the frame of a handle. -/
def copy (handles : Handles made) (handle : Fin made) : Handles (made + 1) :=
  ⟨handles.store, handles.frames.push handles.frames[handle]⟩

/-- A name bound in the frame of a handle. -/
def set (handles : Handles made) (handle : Fin made) (name : String) (value : Value) :
    Handles made :=
  ⟨handles.store.bind handles.frames[handle] name value, handles.frames⟩

/-- The value of a name as the frame of a handle sees it. -/
def get (handles : Handles made) (handle : Fin made) (name : String) : Option Value :=
  handles.store.lookup? handles.frames[handle] name

end Handles

/-- Operations on handles one after the other. The handles have the numbers from 0 on, in the order
in which they are made, so an operation only uses handles that there are. -/
inductive History : Nat → Type
  | nothing : History 0
  | openFrame {made : Nat} (before : History made) (outer : Option (Fin made)) : History (made + 1)
  | copy {made : Nat} (before : History made) (handle : Fin made) : History (made + 1)
  | set {made : Nat} (before : History made) (handle : Fin made) (name : String) (value : Value) :
      History made
  /-- A lookup, after which everything is as before. -/
  | get {made : Nat} (before : History made) (handle : Fin made) (name : String) : History made

namespace History

/-- The store and the handles after the operations. -/
def run : {made : Nat} → History made → Handles made
  | _, nothing => .empty
  | _, openFrame before outer => before.run.openFrame outer
  | _, copy before handle => before.run.copy handle
  | _, set before handle name value => before.run.set handle name value
  | _, get before _ _ => before.run

/-- The number of frames that were opened. -/
def opened : {made : Nat} → History made → Nat
  | _, nothing => 0
  | _, openFrame before _ => before.opened + 1
  | _, copy before _ => before.opened
  | _, set before _ _ _ => before.opened
  | _, get before _ _ => before.opened

/-- The frames that the handles lead to. Frames have the numbers from 0 on, as they are opened. -/
def frames : {made : Nat} → History made → Vector FrameId made
  | _, nothing => #v[]
  | _, openFrame before _ => before.frames.push before.opened
  | _, copy before handle => before.frames.push before.frames[handle]
  | _, set before _ _ _ => before.frames
  | _, get before _ _ => before.frames

/-- The frame that another one was opened in. -/
def outer : {made : Nat} → History made → FrameId → Option FrameId
  | _, nothing, _ => none
  | _, openFrame before around, id =>
    if id = before.opened then around.map (before.frames[·]) else before.outer id
  | _, copy before _, id => before.outer id
  | _, set before _ _ _, id => before.outer id
  | _, get before _ _, id => before.outer id

/-- What a name was bound to last in a frame, through whichever of its handles. -/
def recent : {made : Nat} → History made → FrameId → String → Option Value
  | _, nothing, _, _ => none
  | _, openFrame before _, id, name => before.recent id name
  | _, copy before _, id, name => before.recent id name
  | _, set before handle bound value, id, name =>
    if id = before.frames[handle] ∧ name = bound then some value else before.recent id name
  | _, get before _ _, id, name => before.recent id name

/-- A frame stands on the way outwards from a handle, and no nearer one ever bound the name. -/
def Sees {made : Nat} (history : History made) (handle : Fin made) (target : FrameId)
    (name : String) : Prop :=
  ∃ nearer farther, Chain history.outer history.frames[handle] (nearer ++ target :: farther) ∧
    ∀ id ∈ nearer, history.recent id name = none

/-- Every handle leads to a frame that was opened. -/
theorem frames_lt : ∀ {made : Nat} (history : History made) (handle : Fin made),
    history.frames[handle] < history.opened
  | _, openFrame before _, handle => by
      change (before.frames.push before.opened)[(handle : Nat)] < before.opened + 1
      rw [Vector.getElem_push]
      split
      · next old => exact Nat.lt_succ_of_lt (before.frames_lt ⟨handle, old⟩)
      · exact Nat.lt_succ_self _
  | _, copy before source, handle => by
      change (before.frames.push before.frames[source])[(handle : Nat)] < before.opened
      rw [Vector.getElem_push]
      split
      · next old => exact before.frames_lt ⟨handle, old⟩
      · exact before.frames_lt source
  | _, set before _ _ _, handle => before.frames_lt handle
  | _, get before _ _, handle => before.frames_lt handle

end History

/-! ## The store keeps the history -/

/-- The store and the handles are as the history says. -/
structure Records {made : Nat} (handles : Handles made) (history : History made) : Prop where
  opened : handles.store.size = history.opened
  frames : handles.frames = history.frames
  outer : ∀ id, handles.store.outer? id = history.outer id
  recent : ∀ id name, handles.store.bound? id name = history.recent id name

namespace Records

variable {made : Nat} {handles : Handles made} {history : History made}

theorem nothing : Records .empty .nothing :=
  ⟨rfl, rfl, fun _ => rfl, fun _ _ => rfl⟩

theorem openFrame (records : Records handles history) (around : Option (Fin made)) :
    Records (handles.openFrame around) (history.openFrame around) where
  opened := by
    rw [Handles.openFrame, Store.size_openFrame, records.opened]
    rfl
  frames := by
    rw [Handles.openFrame, records.opened, records.frames]
    rfl
  outer id := by
    -- A handle leads to a frame that was opened, so the store takes it as the frame around.
    have present : (around.map (handles.frames[·])).filter (· < handles.store.size) =
        around.map (history.frames[·]) := by
      rw [records.opened, records.frames]
      cases around with
      | none => rfl
      | some handle => exact Option.filter_some_pos (decide_eq_true (history.frames_lt handle))
    rw [Handles.openFrame, Store.outer?_openFrame, present, records.opened, records.outer]
    rfl
  recent id name := by
    rw [Handles.openFrame, Store.bound?_openFrame, records.recent]
    rfl

theorem copy (records : Records handles history) (handle : Fin made) :
    Records (handles.copy handle) (history.copy handle) where
  opened := records.opened
  frames := by
    rw [Handles.copy, records.frames]
    rfl
  outer := records.outer
  recent := records.recent

theorem set (records : Records handles history) (handle : Fin made) (name : String)
    (value : Value) : Records (handles.set handle name value) (history.set handle name value) where
  opened := (Store.size_bind _ _ _ _).trans records.opened
  frames := records.frames
  outer id := (Store.outer?_bind _ _ _ _ id).trans (records.outer id)
  recent id wanted := by
    have old : handles.frames[handle] < handles.store.size := by
      rw [records.frames, records.opened]
      exact history.frames_lt handle
    rw [Handles.set, Store.bound?_bind _ old, records.recent, records.frames]
    rfl

end Records

/-- After any operations, the store and the handles are as the history says. -/
theorem records_run : ∀ {made : Nat} (history : History made), Records history.run history
  | _, .nothing => .nothing
  | _, .openFrame before outer => (records_run before).openFrame outer
  | _, .copy before handle => (records_run before).copy handle
  | _, .set before handle name value => (records_run before).set handle name value
  | _, .get before _ _ => { records_run before with }

/-! ## Lookups -/

namespace History

variable {made : Nat} (history : History made)

theorem exists_chain (handle : Fin made) :
    ∃ chain, Chain history.outer history.frames[handle] chain ∧ chain.length ≤ history.opened := by
  obtain ⟨chain, links, short⟩ := history.run.store.exists_chain history.frames[handle]
  rw [funext (records_run history).outer] at links
  exact ⟨chain, links, Nat.le_trans short (history.frames_lt handle)⟩

theorem get_run (handle : Fin made) {chain : List FrameId}
    (links : Chain history.outer history.frames[handle] chain) (name : String) :
    history.run.get handle name = chain.findSome? (history.recent · name) := by
  have records := records_run history
  rw [← funext records.outer, ← records.frames] at links
  rw [Handles.get, Store.lookup?_of_chain links]
  exact congrArg chain.findSome? (funext fun id => records.recent id name)

theorem recent_set_self (setter : Fin made) (name : String) (value : Value) (id : FrameId) :
    (history.set setter name value).recent id name =
      if id = history.frames[setter] then some value else history.recent id name := by
  simp only [recent, and_true]

theorem recent_set_of_ne {name other : String} (distinct : other ≠ name) (setter : Fin made)
    (value : Value) (id : FrameId) :
    (history.set setter name value).recent id other = history.recent id other := by
  rw [recent, if_neg fun both => distinct both.2]

end History

section

variable {before after : FrameId → Option Value} {target : FrameId} {value : Value}

/-- A value that was set in one frame is found if no frame before it binds the name. -/
theorem findSome?_of_seen (changed : ∀ id, after id = if id = target then some value else before id)
    (farther : List FrameId) : ∀ {nearer : List FrameId}, (∀ id ∈ nearer, before id = none) →
      (nearer ++ target :: farther).findSome? after = some value
  | [], _ => by rw [List.nil_append, List.findSome?_cons, changed, if_pos rfl]
  | id :: nearer, unbound => by
      rw [List.cons_append, List.findSome?_cons, changed, unbound id List.mem_cons_self]
      by_cases same : id = target
      · rw [if_pos same]
      · rw [if_neg same]
        exact findSome?_of_seen changed farther
          fun other mem => unbound other (List.mem_cons_of_mem _ mem)

/-- A value that was set in one frame changes nothing if wherever the frame stands, one before it
binds the name. -/
theorem findSome?_of_unseen
    (changed : ∀ id, after id = if id = target then some value else before id) :
    ∀ {chain : List FrameId}, (∀ nearer farther, chain = nearer ++ target :: farther →
      ¬ ∀ id ∈ nearer, before id = none) → chain.findSome? after = chain.findSome? before
  | [], _ => rfl
  | id :: chain, hidden => by
      have distinct : id ≠ target := by
        rintro rfl
        exact hidden [] chain rfl (List.forall_mem_nil _)
      rw [List.findSome?_cons, List.findSome?_cons, changed, if_neg distinct]
      cases unbound : before id with
      | some found => rfl
      | none =>
          refine findSome?_of_unseen changed fun nearer farther split none => ?_
          exact hidden (id :: nearer) farther (congrArg (id :: ·) split)
            (List.forall_mem_cons.mpr ⟨unbound, none⟩)

end

/-- **Lookups follow the history.** After any operations on handles, the frames from a handle
outwards form a finite chain, the same in the store as in the history, and a lookup finds what the
name was bound to last, through whichever handle, in the nearest frame of the chain where it was
ever bound. If one more name is set through some handle, then a lookup of it finds the new value
through the handles from which the frame is seen, and through the others what it found before; no
lookup of another name changes. -/
theorem lookups_of_history {made : Nat} (history : History made) :
    (∀ handle : Fin made, ∃ chain,
      Chain history.run.store.outer? history.run.frames[handle] chain ∧
      Chain history.outer history.frames[handle] chain ∧ chain.length ≤ history.opened ∧
      ∀ name, history.run.get handle name = chain.findSome? (history.recent · name)) ∧
    ∀ (setter handle : Fin made) (name : String) (value : Value),
      (history.Sees handle history.frames[setter] name →
        (history.set setter name value).run.get handle name = some value) ∧
      (¬ history.Sees handle history.frames[setter] name →
        (history.set setter name value).run.get handle name = history.run.get handle name) ∧
      ∀ other, other ≠ name →
        (history.set setter name value).run.get handle other = history.run.get handle other := by
  refine ⟨?_, ?_⟩
  · intro handle
    obtain ⟨chain, links, short⟩ := history.exists_chain handle
    refine ⟨chain, ?_, links, short, history.get_run handle links⟩
    rw [funext (records_run history).outer, (records_run history).frames]
    exact links
  · intro setter handle name value
    obtain ⟨chain, links, -⟩ := history.exists_chain handle
    have found := (history.set setter name value).get_run handle links
    have changed := history.recent_set_self setter name value
    refine ⟨?_, ?_, ?_⟩
    · rintro ⟨nearer, farther, links', unbound⟩
      rw [found, links.unique links']
      exact findSome?_of_seen changed farther unbound
    · intro unseen
      rw [found, history.get_run handle links]
      refine findSome?_of_unseen changed fun nearer farther split unbound => ?_
      exact unseen ⟨nearer, farther, split ▸ links, unbound⟩
    · intro other distinct
      rw [found, history.get_run handle links]
      exact congrArg chain.findSome? (funext (history.recent_set_of_ne distinct setter value))

/-- Two handles to a frame inside another one, which binds `x` after the second was made. -/
def hidingHistory : History 3 :=
  (((History.nothing.openFrame none).openFrame (some 0)).copy 1).set 1 "x" (.integer 1)

/-- What is set in the outer frame is seen through the copied handle, except for `x`. -/
theorem lookups_of_history_hiding :
    hidingHistory.Sees 2 hidingHistory.frames[0] "late" ∧
    (hidingHistory.set 0 "late" .null).run.get 2 "late" = some .null ∧
    ¬ hidingHistory.Sees 2 hidingHistory.frames[0] "x" ∧
    (hidingHistory.set 0 "x" .null).run.get 2 "x" = hidingHistory.run.get 2 "x" ∧
    (hidingHistory.set 0 "late" .null).run.get 2 "x" = hidingHistory.run.get 2 "x" ∧
    hidingHistory.run.get 2 "x" = some (.integer 1) := by
  have links : Chain hidingHistory.outer hidingHistory.frames[2] [1, 0] :=
    .within rfl (.outermost rfl)
  have seen : hidingHistory.Sees 2 hidingHistory.frames[0] "late" := by
    refine ⟨[1], [], links, ?_⟩
    intro id mem
    cases List.mem_singleton.mp mem
    rfl
  have unseen : ¬ hidingHistory.Sees 2 hidingHistory.frames[0] "x" := by
    rintro ⟨nearer, farther, links', unbound⟩
    have split : [1, 0] = nearer ++ 0 :: farther := links.unique links'
    cases nearer with
    | nil => cases split
    | cons id nearer =>
        obtain ⟨rfl, -⟩ := List.cons.inj split
        cases unbound 1 List.mem_cons_self
  obtain ⟨lookups, sets⟩ := lookups_of_history hidingHistory
  obtain ⟨chain, _, links', _, finds⟩ := lookups 2
  refine ⟨seen, (sets 0 2 "late" .null).1 seen, unseen, (sets 0 2 "x" .null).2.1 unseen,
    (sets 0 2 "late" .null).2.2 "x" (by decide), ?_⟩
  rw [finds, ← links.unique links']
  rfl

end MonkeyLang
