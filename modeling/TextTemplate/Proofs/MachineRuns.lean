import TextTemplate.Proofs.Renaming

/-!
# Runs of a machine

What can be done with instances, one move after the other.

* `Machine.Move` creates an instance, clones one or executes one. `Machine.playAll` makes moves in
  order and gives the executions. Whoever has a handle on an instance knows its number, so that
  shared handles are one number.
* `Machine.kin` are some instances and their clones, and theirs, after moves.
* `Store.FamiliesExist` is kept by all moves (`Machine.familiesExist_playAll`).
* `Routine.exchanges` are the calls of one instance with its replies. The state of every instance
  in a machine comes from such calls (`Machine.reachable_playAll`).
-/

namespace TextTemplate

universe u

/-! ## What moves find in the store -/

namespace Store

theorem get?_create (store : Store) (routine : Routine) (id : InstanceId) :
    (store.create routine).2.get? id =
      if id = store.instances.size then some ⟨routine, routine.initial, store.families.size⟩
      else store.get? id := by
  simp [create, get?, Array.getElem?_push]

theorem clone_of_some (store : Store) {source : InstanceId} {inst : Instance}
    (h : store.get? source = some inst) :
    store.clone source =
      (store.instances.size, { store with instances := store.instances.push inst }) := by
  simp [clone, h]

theorem clone_of_none (store : Store) {source : InstanceId} (h : store.get? source = none) :
    store.clone source = (source, store) := by
  simp [clone, h]

theorem get?_clone (store : Store) {source : InstanceId} {inst : Instance}
    (h : store.get? source = some inst) (id : InstanceId) :
    (store.clone source).2.get? id =
      if id = store.instances.size then some inst else store.get? id := by
  rw [clone_of_some store h]
  simp [get?, Array.getElem?_push]

theorem get?_eq_none_iff (store : Store) (id : InstanceId) :
    store.get? id = none ↔ store.instances.size ≤ id := by
  simp [get?]

theorem lt_of_get? {store : Store} {id : InstanceId} {inst : Instance}
    (h : store.get? id = some inst) : id < store.instances.size :=
  (Array.getElem?_eq_some_iff.mp h).1

/-- The number of the family of an instance is the one that it replied. -/
theorem shared_update_self (store : Store) (id : InstanceId) {inst : Instance}
    (h : inst.family < store.families.size) (reply : Reply inst.routine.State) :
    (store.update id inst reply).shared inst.family = reply.shared := by
  simp [update, shared, h]

@[simp]
theorem families_size_update (store : Store) (id : InstanceId) (inst : Instance)
    (reply : Reply inst.routine.State) :
    (store.update id inst reply).families.size = store.families.size := by
  simp [update]

/-- Writing what is there already changes nothing. -/
theorem setIfInBounds_same {α : Type u} {xs : Array α} {i : Nat} {a : α} (h : xs[i]? = some a) :
    xs.setIfInBounds i a = xs := by
  apply Array.ext_getElem?
  intro j
  rw [Array.getElem?_setIfInBounds]
  by_cases hij : i = j
  · subst hij
    rw [if_pos rfl, if_pos (Array.getElem?_eq_some_iff.mp h).1, h]
  · rw [if_neg hij]

/-- A reply that changes nothing leaves the store as it was. -/
theorem update_same (store : Store) {id : InstanceId} {inst : Instance}
    (h : store.get? id = some inst) {reply : Reply inst.routine.State}
    (hstate : reply.state = inst.state) (hshared : reply.shared = store.shared inst.family) :
    store.update id inst reply = store := by
  have hinstances :
      store.instances.setIfInBounds id { inst with state := reply.state } = store.instances := by
    rw [hstate]
    exact setIfInBounds_same h
  have hfamilies : store.families.setIfInBounds inst.family reply.shared = store.families := by
    cases hf : store.families[inst.family]? with
    | none => exact Array.setIfInBounds_eq_of_size_le (Array.getElem?_eq_none_iff.mp hf)
    | some number =>
      rw [hshared, shared, hf]
      exact setIfInBounds_same hf
  rw [update, hinstances, hfamilies]

/-- Every instance has a family that exists. -/
def FamiliesExist (store : Store) : Prop :=
  ∀ id inst, store.get? id = some inst → inst.family < store.families.size

end Store

namespace Machine

/-! ## Moves -/

/-- What is done with instances. -/
inductive Move where
  | create (routine : Routine)
  | clone (source : InstanceId)
  | execute (scene : Scene) (id : InstanceId) (arguments : List String)

/-- The execution of an instance, and what it gave. -/
structure Turn where
  id : InstanceId
  arguments : List String
  result : Except InvocationError String

/-- Makes a move. There is an execution only of an instance that exists. -/
def play (m : Machine) : Move → Option Turn × Machine
  | .create routine => (none, { m with store := (m.store.create routine).2 })
  | .clone source => (none, { m with store := (m.store.clone source).2 })
  | .execute scene id arguments =>
    match m.store.get? id with
    | none => (none, m)
    | some _ =>
      let (result, m) := m.execute scene id arguments
      (some { id, arguments, result }, m)

/-- Makes moves in order. -/
def playAll : Machine → List Move → List Turn × Machine
  | m, [] => ([], m)
  | m, move :: moves =>
    let (execution, m) := m.play move
    let (executions, m) := playAll m moves
    (execution.toList ++ executions, m)

/-- The execution of an instance gives what its routine replies, and the store takes it over. -/
theorem play_execute_of_some {m : Machine} {id : InstanceId} {inst : Instance}
    (h : m.store.get? id = some inst) (scene : Scene) (arguments : List String) :
    let call : Call := ⟨scene, arguments, m.store.shared inst.family, m.entropy⟩
    let reply := inst.routine.run call inst.state
    (m.play (.execute scene id arguments)).1 = some ⟨id, arguments, reply.result⟩ ∧
      (m.play (.execute scene id arguments)).2.store = m.store.update id inst reply := by
  simp only [play, execute, h, append]
  exact ⟨trivial, trivial⟩

/-- The same for an instance that is given by its parts. -/
theorem play_execute_of_parts {m : Machine} {id : InstanceId} {routine : Routine}
    {state : routine.State} {family : Nat} (h : m.store.get? id = some ⟨routine, state, family⟩)
    (scene : Scene) (arguments : List String) :
    let reply := routine.run ⟨scene, arguments, m.store.shared family, m.entropy⟩ state
    (m.play (.execute scene id arguments)).1 = some ⟨id, arguments, reply.result⟩ ∧
      (m.play (.execute scene id arguments)).2.store =
        m.store.update id ⟨routine, state, family⟩ reply :=
  play_execute_of_some h scene arguments

theorem play_execute_of_none {m : Machine} {id : InstanceId} (h : m.store.get? id = none)
    (scene : Scene) (arguments : List String) :
    m.play (.execute scene id arguments) = (none, m) := by
  simp only [play, h]

/-- What is executed exists. -/
theorem lt_size_of_play {m : Machine} {move : Move} {x : Turn}
    (h : (m.play move).1 = some x) : x.id < m.store.instances.size := by
  cases move with
  | create | clone => cases h
  | execute scene id arguments =>
    cases hi : m.store.get? id with
    | none =>
      rw [play_execute_of_none hi] at h
      cases h
    | some inst =>
      rw [(play_execute_of_some hi scene arguments).1] at h
      cases h
      exact Store.lt_of_get? hi

/-- The instances in a store exist in families. -/
theorem familiesExist_play {m : Machine} (h : m.store.FamiliesExist) (move : Move) :
    (m.play move).2.store.FamiliesExist := by
  cases move with
  | create routine =>
    intro id inst hi
    simp only [play, Store.get?_create, Store.families_size_create] at hi ⊢
    split at hi
    · cases hi
      exact Nat.lt_succ_self _
    · exact Nat.lt_succ_of_lt (h id inst hi)
  | clone source =>
    cases hs : m.store.get? source with
    | none =>
      simp only [play, Store.clone_of_none _ hs]
      exact h
    | some copied =>
      intro id inst hi
      have hsize : (m.store.clone source).2.families = m.store.families := by
        rw [Store.clone_of_some _ hs]
      simp only [play, Store.get?_clone _ hs, hsize] at hi ⊢
      split at hi
      · cases hi
        exact h source copied hs
      · exact h id inst hi
  | execute scene executed arguments =>
    cases he : m.store.get? executed with
    | none =>
      simp only [play, he]
      exact h
    | some running =>
      intro id inst hi
      simp only [play, execute, he, append, Store.families_size_update] at hi ⊢
      by_cases hid : executed = id
      · subst hid
        rw [m.store.get?_update_self he] at hi
        cases hi
        exact h executed running he
      · rw [m.store.get?_update_of_ne hid] at hi
        exact h id inst hi

theorem familiesExist_playAll {m : Machine} (h : m.store.FamiliesExist) (moves : List Move) :
    (m.playAll moves).2.store.FamiliesExist := by
  induction moves generalizing m with
  | nil => exact h
  | cons move moves ih => exact ih (familiesExist_play h move)

/-! ## Clones -/

/-- The number of the next new instance after a move. -/
def Move.next (next : Nat) : Move → Nat
  | .create _ => next + 1
  | .clone source => if source < next then next + 1 else next
  | .execute _ _ _ => next

/-- Some instances and the clone that a move makes of one of them, if it does. -/
def Move.kin (next : Nat) (ids : List InstanceId) : Move → List InstanceId
  | .create _ => ids
  | .clone source => if source ∈ ids then next :: ids else ids
  | .execute _ _ _ => ids

/-- Some instances and their clones, and theirs, after moves; `next` is the number of the next new
instance. -/
def kin (next : Nat) (ids : List InstanceId) : List Move → List InstanceId
  | [] => ids
  | move :: moves => kin (move.next next) (move.kin next ids) moves

variable {next : Nat} {ids : List InstanceId}

theorem size_play (m : Machine) (move : Move) :
    (m.play move).2.store.instances.size = move.next m.store.instances.size := by
  cases move with
  | create routine => exact m.store.size_create routine
  | clone source =>
    cases hs : m.store.get? source with
    | none =>
      have hle := (m.store.get?_eq_none_iff source).mp hs
      simp only [play, Store.clone_of_none _ hs, Move.next, if_neg (Nat.not_lt.mpr hle)]
    | some inst =>
      simp only [play, Store.clone_of_some _ hs, Move.next, if_pos (Store.lt_of_get? hs),
        Array.size_push]
  | execute scene id arguments =>
    cases hi : m.store.get? id with
    | none => simp only [play, hi, Move.next]
    | some inst =>
      simp only [play, hi, Move.next]
      exact m.execute_size scene id arguments

theorem Move.le_next (next : Nat) (move : Move) : next ≤ move.next next := by
  cases move with
  | create routine => exact Nat.le_succ next
  | clone source =>
    simp only [Move.next]
    split <;> omega
  | execute => exact Nat.le_refl next

theorem Move.mem_kin_iff {id : InstanceId} (h : id < next) (move : Move) :
    id ∈ move.kin next ids ↔ id ∈ ids := by
  cases move with
  | create | execute => rfl
  | clone source =>
    simp only [Move.kin]
    split
    · rw [List.mem_cons, or_iff_right (Nat.ne_of_lt h)]
    · rfl

theorem Move.subset_kin (next : Nat) (ids : List InstanceId) (move : Move) :
    ids ⊆ move.kin next ids := by
  cases move with
  | create | execute => exact List.Subset.refl ids
  | clone source =>
    simp only [Move.kin]
    split
    · exact List.subset_cons_self next ids
    · exact List.Subset.refl ids

/-- Instances stay what they are. -/
theorem subset_kin (next : Nat) (ids : List InstanceId) (moves : List Move) :
    ids ⊆ kin next ids moves := by
  induction moves generalizing next ids with
  | nil => exact List.Subset.refl ids
  | cons move moves ih => exact List.Subset.trans (move.subset_kin next ids) (ih _ _)

/-- An instance that exists does not become a clone of another one. -/
theorem mem_kin_iff {id : InstanceId} (h : id < next) (moves : List Move) :
    id ∈ kin next ids moves ↔ id ∈ ids := by
  induction moves generalizing next ids with
  | nil => rfl
  | cons move moves ih =>
    rw [kin, ih (Nat.lt_of_lt_of_le h (move.le_next next)), move.mem_kin_iff h]

end Machine

/-! ## Calls of one instance -/

namespace Routine

/-- A call of an instance, and its reply. -/
structure Exchange (routine : Routine) where
  call : Call
  reply : Reply routine.State

/-- What calls of an instance give in order, and the state that they leave it in. -/
def exchanges (routine : Routine) :
    routine.State → List Call → List (Exchange routine) × routine.State
  | state, [] => ([], state)
  | state, call :: calls =>
    let reply := routine.run call state
    let (rest, last) := exchanges routine reply.state calls
    (⟨call, reply⟩ :: rest, last)

theorem exchanges_append (routine : Routine) (state : routine.State) (calls calls' : List Call) :
    routine.exchanges state (calls ++ calls') =
      ((routine.exchanges state calls).1 ++
          (routine.exchanges (routine.exchanges state calls).2 calls').1,
        (routine.exchanges (routine.exchanges state calls).2 calls').2) := by
  induction calls generalizing state with
  | nil => rfl
  | cons call calls ih => simp only [List.cons_append, exchanges, ih]

/-- What calls of a new instance can lead to. -/
def Reachable (routine : Routine) (state : routine.State) : Prop :=
  ∃ calls, (routine.exchanges routine.initial calls).2 = state

theorem reachable_initial (routine : Routine) : routine.Reachable routine.initial := ⟨[], rfl⟩

theorem Reachable.run {routine : Routine} {state : routine.State} (h : routine.Reachable state)
    (call : Call) : routine.Reachable (routine.run call state).state := by
  obtain ⟨calls, rfl⟩ := h
  refine ⟨calls ++ [call], ?_⟩
  rw [exchanges_append]
  rfl

end Routine

namespace Machine

/-- All instances are in states that calls of new ones lead to. -/
def Reachable (m : Machine) : Prop :=
  ∀ id inst, m.store.get? id = some inst → inst.routine.Reachable inst.state

theorem reachable_play {m : Machine} (h : m.Reachable) (move : Move) :
    (m.play move).2.Reachable := by
  intro id inst hi
  cases move with
  | create routine =>
    simp only [play, Store.get?_create] at hi
    split at hi
    · cases hi
      exact routine.reachable_initial
    · exact h id inst hi
  | clone source =>
    cases hs : m.store.get? source with
    | none =>
      simp only [play, Store.clone_of_none _ hs] at hi
      exact h id inst hi
    | some copied =>
      simp only [play, Store.get?_clone _ hs] at hi
      split at hi
      · cases hi
        exact h source _ hs
      · exact h id inst hi
  | execute scene executed arguments =>
    cases he : m.store.get? executed with
    | none =>
      rw [play_execute_of_none he] at hi
      exact h id inst hi
    | some running =>
      obtain ⟨-, hstore⟩ := play_execute_of_some he scene arguments
      rw [hstore] at hi
      by_cases hid : executed = id
      · subst hid
        rw [m.store.get?_update_self he] at hi
        cases hi
        exact (h executed _ he).run _
      · rw [m.store.get?_update_of_ne hid] at hi
        exact h id inst hi

theorem reachable_playAll {m : Machine} (h : m.Reachable) (moves : List Move) :
    (m.playAll moves).2.Reachable := by
  induction moves generalizing m with
  | nil => exact h
  | cons move moves ih => exact ih (reachable_play h move)

end Machine

end TextTemplate
