import TextTemplate.Routine

/-!
# Store of instances

Every call in a live expression drives an instance: a routine with its state. The store holds all
instances by number, and numbers are never used again.

* `create` makes an instance in the initial state of a routine, `clone` one in the state of
  another.
* An instance and its clones, and theirs, are a family, which has one number in common.
* `update` gives an instance another state, and its family another number. No other instance and no
  other family changes.
-/

namespace TextTemplate

/-- The number of an instance. -/
abbrev InstanceId := Nat

/-- A routine with its state. -/
structure Instance where
  routine : Routine
  state : routine.State
  family : Nat

/-- All instances, and the common numbers of their families. -/
structure Store where
  instances : Array Instance := #[]
  families : Array UInt64 := #[]

namespace Store

/-- The instance with a number. -/
def get? (store : Store) (id : InstanceId) : Option Instance := store.instances[id]?

/-- A new instance of a routine, which starts a family. -/
def create (store : Store) (routine : Routine) : InstanceId × Store :=
  let family := store.families.size
  (store.instances.size,
    { instances := store.instances.push { routine, state := routine.initial, family }
      families := store.families.push 0 })

/-- A new instance in the state of another one and of the same family. -/
def clone (store : Store) (id : InstanceId) : InstanceId × Store :=
  match store.get? id with
  | none => (id, store)
  | some inst =>
    (store.instances.size, { store with instances := store.instances.push inst })

@[simp]
theorem size_create (store : Store) (routine : Routine) :
    (store.create routine).2.instances.size = store.instances.size + 1 := by
  simp [create]

@[simp]
theorem families_size_create (store : Store) (routine : Routine) :
    (store.create routine).2.families.size = store.families.size + 1 := by
  simp [create]

theorem get?_create_self (store : Store) (routine : Routine) :
    (store.create routine).2.get? (store.create routine).1 =
      some ⟨routine, routine.initial, store.families.size⟩ := by
  simp [create, get?]

/-- Creating an instance leaves the others as they are. -/
theorem get?_create_of_lt (store : Store) (routine : Routine) {id : InstanceId}
    (h : id < store.instances.size) : (store.create routine).2.get? id = store.get? id := by
  simp [create, get?, Array.getElem?_push, Nat.ne_of_lt h]

/-- A clone is in the state of the instance that it was made of. -/
theorem get?_clone_self (store : Store) {id : InstanceId} {inst : Instance}
    (h : store.get? id = some inst) :
    (store.clone id).2.get? (store.clone id).1 = some inst := by
  have hc : store.clone id =
      (store.instances.size, { store with instances := store.instances.push inst }) := by
    simp [clone, h]
  rw [hc]
  simp [get?]

/-- Cloning an instance leaves all instances as they are. -/
theorem get?_clone_of_lt (store : Store) (copied : InstanceId) {id : InstanceId}
    (h : id < store.instances.size) : (store.clone copied).2.get? id = store.get? id := by
  unfold clone
  split
  · rfl
  · simp [get?, Array.getElem?_push, Nat.ne_of_lt h]

/-- The common number of a family. -/
def shared (store : Store) (family : Nat) : UInt64 := (store.families[family]?).getD 0

/-- Creating an instance leaves the numbers of all families as they are. -/
@[simp]
theorem shared_create (store : Store) (routine : Routine) (family : Nat) :
    (store.create routine).2.shared family = store.shared family := by
  simp only [create, shared, Array.getElem?_push]
  split
  · simp [*]
  · rfl

theorem shared_size (store : Store) : store.shared store.families.size = 0 := by
  simp [shared]

/-- The store after an instance has given a reply. -/
def update (store : Store) (id : InstanceId) (inst : Instance)
    (reply : Reply inst.routine.State) : Store :=
  { instances := store.instances.setIfInBounds id { inst with state := reply.state }
    families := store.families.setIfInBounds inst.family reply.shared }

/-- The instance itself is in the state that it replied. -/
theorem get?_update_self (store : Store) {id : InstanceId} {inst : Instance}
    (h : store.get? id = some inst) (reply : Reply inst.routine.State) :
    (store.update id inst reply).get? id = some { inst with state := reply.state } := by
  have hlt : id < store.instances.size := (Array.getElem?_eq_some_iff.mp h).1
  simp [update, get?, hlt]

/-- A reply leaves the other instances as they are. -/
theorem get?_update_of_ne (store : Store) {id other : InstanceId} (h : id ≠ other)
    (inst : Instance) (reply : Reply inst.routine.State) :
    (store.update id inst reply).get? other = store.get? other := by
  simp [update, get?, Array.getElem?_setIfInBounds_ne h]

/-- A reply leaves the numbers of other families as they are. -/
theorem shared_update_of_ne (store : Store) (id : InstanceId) {inst : Instance} {family : Nat}
    (h : inst.family ≠ family) (reply : Reply inst.routine.State) :
    (store.update id inst reply).shared family = store.shared family := by
  simp [update, shared, Array.getElem?_setIfInBounds_ne h]

end Store

end TextTemplate
