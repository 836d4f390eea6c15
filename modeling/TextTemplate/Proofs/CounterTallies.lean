import Mathlib.Logic.Function.Basic
import TextTemplate.Proofs.MachineRuns

/-!
# Tallies of counters

What a family of counters should do, and that a machine does so. A family is an instance, the
clones of that, and theirs.

* `CounterMode.ofArguments` says what an execution counts for, and `counted` what it makes of the
  counts. `Machine.play_counterAt` is what a machine does on it.
* `Tally` is what a family should do, by moves alone: one count that all members share, and one of
  each member.
* `Tally.Stands` says that a machine is in the state of a tally. It is so for a new counter
  (`Tally.stands_create`), and stays so, with the executions that are expected
  (`Tally.Stands.playAll`).
-/

namespace TextTemplate

namespace Library

/-! ## Modes -/

/-- What arguments ask a counter to count for, blanks and letter case of the first one aside. -/
def CounterMode.ofArguments (arguments : List String) : Option CounterMode :=
  let word := (Text.trim ((arguments[0]?).getD "")).toList.map Char.toLower
  if word = [] ∨ word = "true".toList then some .perCopy
  else if word = "false".toList then some .shared
  else none

theorem CounterMode.ofText?_argument (call : Call) :
    CounterMode.ofText? (Text.trim (call.argument 0)) =
      CounterMode.ofArguments call.arguments := by
  have htrue : "true".toList.map Char.toLower = "true".toList := by decide
  have hfalse : "false".toList.map Char.toLower = "false".toList := by decide
  have hempty : ∀ s : String, s = "" ↔ s.toList.map Char.toLower = [] := by simp
  unfold ofText? ofArguments Call.argument
  simp only [Text.equalIgnoringAsciiCase, htrue, hfalse, Bool.or_eq_true, beq_iff_eq,
    decide_eq_true_eq, hempty]

/-- What a counter answers to other arguments. -/
def refusal (arguments : List String) : InvocationError :=
  .invalidArgument "__counter" 0
    ("expected TRUE or FALSE, got '" ++ Text.trim ((arguments[0]?).getD "") ++ "'")

section Modes

variable (call : Call) (n : UInt64)

/-- A counter that counts for itself. -/
theorem run_counter_perCopy (h : CounterMode.ofArguments call.arguments = some .perCopy) :
    counter.run call n = call.reply (n + 1) (.ok (showCount (n + 1))) := by
  rw [← CounterMode.ofText?_argument] at h
  simp only [counter, h]

/-- A counter that counts for its family. -/
theorem run_counter_shared (h : CounterMode.ofArguments call.arguments = some .shared) :
    counter.run call n =
      { result := .ok (showCount (call.shared + 1))
        state := n
        shared := call.shared + 1
        entropy := call.entropy } := by
  rw [← CounterMode.ofText?_argument] at h
  simp only [counter, h]

/-- A counter that counts for nothing that it knows. -/
theorem run_counter_refused (h : CounterMode.ofArguments call.arguments = none) :
    counter.run call n = call.reply n (.error (refusal call.arguments)) := by
  rw [← CounterMode.ofText?_argument] at h
  simp only [counter, h]
  rfl

end Modes

end Library

open Library (counter CounterMode refusal showCount)

/-! ## A counter in a machine -/

/-- The result that shows a count, which starts again where it does not fit. -/
def shownCount (n : Nat) : Except InvocationError String := .ok (toString (n % UInt64.size))

theorem showCount_ofNat (n : Nat) : showCount (UInt64.ofNat n) = toString (n % UInt64.size) := by
  rw [showCount, UInt64.toNat_ofNat']

/-- Whether an execution counts for the family. -/
def Machine.Turn.isShared (x : Machine.Turn) : Bool :=
  CounterMode.ofArguments x.arguments = some .shared

/-- Whether an execution counts for an instance by itself. -/
def Machine.Turn.isOwn (id : InstanceId) (x : Machine.Turn) : Bool :=
  x.id = id && decide (CounterMode.ofArguments x.arguments = some .perCopy)

/-- A counter with a count of its own, in a family. -/
def counterAt (own : Nat) (family : Nat) : Instance := ⟨counter, UInt64.ofNat own, family⟩

/-- The result of an execution, and the counts after it. -/
structure Counted where
  result : Except InvocationError String
  own : Nat
  shared : Nat

/-- What an execution makes of the count of an instance and of that of its family. -/
@[irreducible]
def counted (own shared : Nat) (arguments : List String) : Counted :=
  match CounterMode.ofArguments arguments with
  | some .perCopy => ⟨shownCount (own + 1), own + 1, shared⟩
  | some .shared => ⟨shownCount (shared + 1), own, shared + 1⟩
  | none => ⟨.error (refusal arguments), own, shared⟩

theorem counted_perCopy {arguments : List String}
    (h : CounterMode.ofArguments arguments = some .perCopy) (own shared : Nat) :
    counted own shared arguments = ⟨shownCount (own + 1), own + 1, shared⟩ := by
  simp only [counted, h]

theorem counted_shared {arguments : List String}
    (h : CounterMode.ofArguments arguments = some .shared) (own shared : Nat) :
    counted own shared arguments = ⟨shownCount (shared + 1), own, shared + 1⟩ := by
  simp only [counted, h]

theorem counted_refused {arguments : List String} (h : CounterMode.ofArguments arguments = none)
    (own shared : Nat) :
    counted own shared arguments = ⟨.error (refusal arguments), own, shared⟩ := by
  simp only [counted, h]

/-- What a counter replies. -/
theorem run_counter_ofNat (call : Call) (own : Nat) {shared : Nat}
    (hs : call.shared = UInt64.ofNat shared) :
    (counter.run call (UInt64.ofNat own)).result = (counted own shared call.arguments).result ∧
      (counter.run call (UInt64.ofNat own)).state =
        UInt64.ofNat (counted own shared call.arguments).own ∧
      (counter.run call (UInt64.ofNat own)).shared =
        UInt64.ofNat (counted own shared call.arguments).shared := by
  have hsucc : ∀ n : Nat, UInt64.ofNat n + 1 = UInt64.ofNat (n + 1) :=
    fun n => (UInt64.ofNat_add n 1).symm
  have hshown : ∀ n : Nat, .ok (showCount (UInt64.ofNat n + 1)) = shownCount (n + 1) := by
    intro n
    rw [hsucc, showCount_ofNat]
    rfl
  cases hmode : CounterMode.ofArguments call.arguments with
  | none =>
    rw [Library.run_counter_refused _ _ hmode, counted_refused hmode]
    exact ⟨rfl, rfl, hs⟩
  | some mode =>
    cases mode with
    | perCopy =>
      rw [Library.run_counter_perCopy _ _ hmode, counted_perCopy hmode]
      exact ⟨hshown own, hsucc own, hs⟩
    | shared =>
      rw [Library.run_counter_shared _ _ hmode, counted_shared hmode, hs]
      exact ⟨hshown shared, rfl, hsucc shared⟩

open Machine (Move Turn)

namespace Machine

variable {m : Machine} {id : InstanceId} {own shared family : Nat}

/-- The execution of a counter gives what the counter replies. -/
theorem play_counterAt (h : m.store.get? id = some (counterAt own family)) (scene : Scene)
    (arguments : List String) :
    let reply := counter.run ⟨scene, arguments, m.store.shared family, m.entropy⟩ (UInt64.ofNat own)
    (m.play (.execute scene id arguments)).1 = some ⟨id, arguments, reply.result⟩ ∧
      (m.play (.execute scene id arguments)).2.store =
        m.store.update id ⟨counter, UInt64.ofNat own, family⟩ reply := by
  unfold counterAt at h
  exact play_execute_of_parts h scene arguments

/-- What the execution of a counter gives, and how it leaves the counter and its family. -/
theorem play_counted (h : m.store.get? id = some (counterAt own family))
    (hfamily : family < m.store.families.size)
    (hshared : m.store.shared family = UInt64.ofNat shared) (scene : Scene)
    (arguments : List String) :
    (m.play (.execute scene id arguments)).1 =
        some ⟨id, arguments, (counted own shared arguments).result⟩ ∧
      (m.play (.execute scene id arguments)).2.store.get? id =
        some (counterAt (counted own shared arguments).own family) ∧
      (m.play (.execute scene id arguments)).2.store.shared family =
        UInt64.ofNat (counted own shared arguments).shared := by
  obtain ⟨hexecution, hstore⟩ := play_counterAt h scene arguments
  unfold counterAt at h
  obtain ⟨hresult, hown, hcount⟩ :=
    run_counter_ofNat ⟨scene, arguments, m.store.shared family, m.entropy⟩ own hshared
  rw [hexecution, hstore]
  have hfamilies : (Instance.mk counter (UInt64.ofNat own) family).family <
      m.store.families.size := hfamily
  refine ⟨?_, ?_, ?_⟩
  · rw [hresult]
  · rw [m.store.get?_update_self h, hown]
    rfl
  · rw [← hcount]
    exact m.store.shared_update_self id hfamilies _

/-- An execution of a counter with other arguments changes nothing in the store. -/
theorem store_play_refused (h : m.store.get? id = some (counterAt own family))
    {arguments : List String} (hmode : CounterMode.ofArguments arguments = none) (scene : Scene) :
    (m.play (.execute scene id arguments)).2.store = m.store := by
  obtain ⟨-, hstore⟩ := play_counterAt h scene arguments
  unfold counterAt at h
  rw [hstore, Library.run_counter_refused ⟨scene, arguments, _, _⟩ _ hmode]
  exact m.store.update_same h rfl rfl

end Machine

/-! ## What a family should do -/

/-- The members of a family and their counts. -/
structure Tally where
  /-- The number of the next new instance. -/
  next : Nat
  members : List InstanceId
  /-- The count that all members share. -/
  shared : Nat
  /-- The count of a member by itself. -/
  own : InstanceId → Nat

namespace Tally

/-- The counts after an execution of a member. -/
def after (t : Tally) (id : InstanceId) (c : Counted) : Tally :=
  { t with own := Function.update t.own id c.own, shared := c.shared }

@[simp]
theorem own_after (t : Tally) (id : InstanceId) (c : Counted) :
    (t.after id c).own = Function.update t.own id c.own := rfl

@[simp]
theorem shared_after (t : Tally) (id : InstanceId) (c : Counted) :
    (t.after id c).shared = c.shared := rfl

/-- The execution of a member that a move is, and the counts after it. A clone of a member starts
with its count. -/
def step (t : Tally) (move : Move) : Option Turn × Tally :=
  match move with
  | .create _ => (none, { t with next := move.next t.next })
  | .clone source =>
    (none,
      { t with
        next := move.next t.next
        members := move.kin t.next t.members
        own := if source ∈ t.members then Function.update t.own t.next (t.own source) else t.own })
  | .execute _ id arguments =>
    if id ∈ t.members then
      let c := counted (t.own id) t.shared arguments
      (some ⟨id, arguments, c.result⟩, t.after id c)
    else
      (none, t)

/-- The executions of members in moves, and the counts after them. -/
def run : Tally → List Move → List Turn × Tally
  | t, [] => ([], t)
  | t, move :: moves =>
    let (execution, t) := t.step move
    let (executions, t) := run t moves
    (execution.toList ++ executions, t)

theorem run_append (t : Tally) (moves moves' : List Move) :
    t.run (moves ++ moves') =
      ((t.run moves).1 ++ ((t.run moves).2.run moves').1, ((t.run moves).2.run moves').2) := by
  induction moves generalizing t with
  | nil => rfl
  | cons move moves ih => simp only [List.cons_append, run, ih, List.append_assoc]

theorem step_execute_of_mem {t : Tally} {id : InstanceId} (h : id ∈ t.members) (scene : Scene)
    (arguments : List String) :
    t.step (.execute scene id arguments) =
      (some ⟨id, arguments, (counted (t.own id) t.shared arguments).result⟩,
        t.after id (counted (t.own id) t.shared arguments)) := by
  simp only [step, if_pos h]

theorem step_execute_of_not_mem {t : Tally} {id : InstanceId} (h : id ∉ t.members)
    (scene : Scene) (arguments : List String) :
    t.step (.execute scene id arguments) = (none, t) := by
  simp only [step, if_neg h]

theorem next_step (t : Tally) (move : Move) : (t.step move).2.next = move.next t.next := by
  cases move with
  | create routine => simp only [step]
  | clone source => simp only [step]
  | execute scene id arguments =>
    by_cases hid : id ∈ t.members
    · simp only [step_execute_of_mem hid, after, Move.next]
    · simp only [step_execute_of_not_mem hid, Move.next]

theorem members_step (t : Tally) (move : Move) :
    (t.step move).2.members = move.kin t.next t.members := by
  cases move with
  | create routine => simp only [step, Move.kin]
  | clone source => simp only [step]
  | execute scene id arguments =>
    by_cases hid : id ∈ t.members
    · simp only [step_execute_of_mem hid, after, Move.kin]
    · simp only [step_execute_of_not_mem hid, Move.kin]

theorem members_run (t : Tally) (moves : List Move) :
    (t.run moves).2.members = Machine.kin t.next t.members moves := by
  induction moves generalizing t with
  | nil => rfl
  | cons move moves ih =>
    simp only [run, Machine.kin]
    rw [ih, next_step, members_step]

/-! ## A machine does so -/

/-- The members of a family are counters in a machine, with these counts, and no other instance is
of the family. -/
structure Stands (t : Tally) (m : Machine) (family : Nat) : Prop where
  next : m.store.instances.size = t.next
  known : family < m.store.families.size
  shared : m.store.shared family = UInt64.ofNat t.shared
  members : ∀ id ∈ t.members, m.store.get? id = some (counterAt (t.own id) family)
  others : ∀ id inst, m.store.get? id = some inst → id ∉ t.members → inst.family ≠ family

namespace Stands

variable {t : Tally} {m : Machine} {family : Nat}

theorem lt_next (h : t.Stands m family) : ∀ id ∈ t.members, id < t.next := by
  intro id hid
  rw [← h.next]
  exact Store.lt_of_get? (h.members id hid)

theorem play_create (h : t.Stands m family) (routine : Routine) :
    (t.step (.create routine)).2.Stands (m.play (.create routine)).2 family where
  next := by
    rw [next_step, Machine.size_play, h.next]
  known := by
    simp only [Machine.play, Store.families_size_create]
    exact Nat.lt_succ_of_lt h.known
  shared := by
    simp only [Machine.play, Store.shared_create]
    exact h.shared
  members := by
    intro id hid
    have hne : id ≠ m.store.instances.size := Nat.ne_of_lt (Store.lt_of_get? (h.members id hid))
    simp only [Machine.play, Store.get?_create, if_neg hne]
    exact h.members id hid
  others := by
    intro id inst hi hid
    simp only [Machine.play, Store.get?_create] at hi
    split at hi
    · cases hi
      exact Nat.ne_of_gt h.known
    · exact h.others id inst hi hid

theorem play_clone_member (h : t.Stands m family) {source : InstanceId}
    (hsource : source ∈ t.members) :
    (t.step (.clone source)).2.Stands (m.play (.clone source)).2 family := by
  have hs := h.members source hsource
  have hstore : (m.play (.clone source)).2.store = (m.store.clone source).2 := rfl
  have hfamilies : (m.store.clone source).2.families = m.store.families := by
    rw [Store.clone_of_some _ hs]
  have hmembers : (t.step (.clone source)).2.members = t.next :: t.members := by
    rw [members_step, Move.kin, if_pos hsource]
  have hown : (t.step (.clone source)).2.own =
      Function.update t.own t.next (t.own source) := by
    simp only [step, if_pos hsource]
  refine ⟨?_, ?_, ?_, ?_, ?_⟩
  · rw [next_step, Machine.size_play, h.next]
  · rw [hstore, hfamilies]
    exact h.known
  · rw [hstore, Store.shared, hfamilies]
    exact h.shared
  · intro id hid
    rw [hmembers, List.mem_cons] at hid
    rw [hstore, Store.get?_clone _ hs, hown, h.next]
    by_cases hnew : id = t.next
    · -- The clone starts in the state of its source.
      rw [if_pos hnew, hnew, Function.update_self]
    · rw [if_neg hnew, Function.update_of_ne hnew]
      exact h.members id (hid.resolve_left hnew)
  · intro id inst hi hid
    rw [hmembers, List.mem_cons, not_or] at hid
    rw [hstore, Store.get?_clone _ hs, h.next, if_neg hid.1] at hi
    exact h.others id inst hi hid.2

theorem play_clone_other (h : t.Stands m family) {source : InstanceId}
    (hsource : source ∉ t.members) :
    (t.step (.clone source)).2.Stands (m.play (.clone source)).2 family := by
  have hnext : (m.play (.clone source)).2.store.instances.size =
      (t.step (.clone source)).2.next := by
    rw [next_step, Machine.size_play, h.next]
  have hmembers : (t.step (.clone source)).2.members = t.members := by
    rw [members_step, Move.kin, if_neg hsource]
  have hown : (t.step (.clone source)).2.own = t.own := by
    simp only [step, if_neg hsource]
  have hstore : (m.play (.clone source)).2.store = (m.store.clone source).2 := rfl
  cases hs : m.store.get? source with
  | none =>
    rw [Store.clone_of_none _ hs] at hstore
    refine ⟨hnext, ?_, ?_, ?_, ?_⟩
    · rw [hstore]
      exact h.known
    · rw [hstore]
      exact h.shared
    · rw [hstore, hmembers, hown]
      exact h.members
    · rw [hstore, hmembers]
      exact h.others
  | some copied =>
    have hfamilies : (m.store.clone source).2.families = m.store.families := by
      rw [Store.clone_of_some _ hs]
    refine ⟨hnext, ?_, ?_, ?_, ?_⟩
    · rw [hstore, hfamilies]
      exact h.known
    · rw [hstore, Store.shared, hfamilies]
      exact h.shared
    · intro id hid
      rw [hmembers] at hid
      rw [hstore, Store.get?_clone _ hs, hown, h.next, if_neg (Nat.ne_of_lt (h.lt_next id hid))]
      exact h.members id hid
    · intro id inst hi hid
      rw [hmembers] at hid
      rw [hstore, Store.get?_clone _ hs] at hi
      split at hi
      · cases hi
        exact h.others source copied hs hsource
      · exact h.others id inst hi hid

theorem play_execute_member (h : t.Stands m family) {id : InstanceId} (hid : id ∈ t.members)
    (scene : Scene) (arguments : List String) :
    (t.step (.execute scene id arguments)).2.Stands (m.play (.execute scene id arguments)).2
        family := by
  obtain ⟨-, hself, hshared⟩ :=
    Machine.play_counted (h.members id hid) h.known h.shared scene arguments
  obtain ⟨-, hstore⟩ := Machine.play_execute_of_some (h.members id hid) scene arguments
  rw [step_execute_of_mem hid]
  generalize counted (t.own id) t.shared arguments = c at hself hshared ⊢
  refine ⟨?_, ?_, hshared, ?_, ?_⟩
  · rw [Machine.size_play]
    exact h.next
  · rw [hstore, Store.families_size_update]
    exact h.known
  · intro other ho
    by_cases heq : id = other
    · subst heq
      simp only [after, Function.update_self]
      exact hself
    · rw [hstore, m.store.get?_update_of_ne heq]
      simp only [after, Function.update_of_ne (Ne.symm heq)]
      exact h.members other ho
  · intro other inst hi ho
    have hne : id ≠ other := by
      rintro rfl
      exact ho hid
    rw [hstore, m.store.get?_update_of_ne hne] at hi
    exact h.others other inst hi ho

theorem play_execute_other (h : t.Stands m family) {id : InstanceId} (hid : id ∉ t.members)
    (scene : Scene) (arguments : List String) :
    (t.step (.execute scene id arguments)).2.Stands (m.play (.execute scene id arguments)).2
        family := by
  rw [step_execute_of_not_mem hid]
  cases hi : m.store.get? id with
  | none =>
    rw [Machine.play_execute_of_none hi]
    exact h
  | some inst =>
    obtain ⟨-, hstore⟩ := Machine.play_execute_of_some hi scene arguments
    have hfamily : inst.family ≠ family := h.others id inst hi hid
    refine ⟨?_, ?_, ?_, ?_, ?_⟩
    · rw [Machine.size_play]
      exact h.next
    · rw [hstore, Store.families_size_update]
      exact h.known
    · rw [hstore, m.store.shared_update_of_ne id hfamily]
      exact h.shared
    · intro other ho
      have hne : id ≠ other := by
        rintro rfl
        exact hid ho
      rw [hstore, m.store.get?_update_of_ne hne]
      exact h.members other ho
    · intro other found hf ho
      rw [hstore] at hf
      by_cases heq : id = other
      · subst heq
        rw [m.store.get?_update_self hi] at hf
        cases hf
        exact hfamily
      · rw [m.store.get?_update_of_ne heq] at hf
        exact h.others other found hf ho

/-- Every move leaves the machine in the state of the tally, and is the execution of a member that
is expected. -/
theorem play (h : t.Stands m family) (move : Move) :
    (t.step move).2.Stands (m.play move).2 family ∧
      (m.play move).1.filter (·.id ∈ t.members) = (t.step move).1 := by
  cases move with
  | create routine => exact ⟨h.play_create routine, rfl⟩
  | clone source =>
    by_cases hsource : source ∈ t.members
    · exact ⟨h.play_clone_member hsource, rfl⟩
    · exact ⟨h.play_clone_other hsource, rfl⟩
  | execute scene id arguments =>
    by_cases hid : id ∈ t.members
    · refine ⟨h.play_execute_member hid scene arguments, ?_⟩
      obtain ⟨hexecution, -⟩ :=
        Machine.play_counted (h.members id hid) h.known h.shared scene arguments
      rw [hexecution, step_execute_of_mem hid]
      simp [hid]
    · refine ⟨h.play_execute_other hid scene arguments, ?_⟩
      rw [step_execute_of_not_mem hid]
      cases hi : m.store.get? id with
      | none =>
        rw [Machine.play_execute_of_none hi]
        rfl
      | some inst =>
        rw [(Machine.play_execute_of_some hi scene arguments).1]
        simp [hid]

/-- Moves leave the machine in the state of the tally, and the executions of members are as
expected. -/
theorem playAll (h : t.Stands m family) (moves : List Move) :
    (t.run moves).2.Stands (m.playAll moves).2 family ∧
      (m.playAll moves).1.filter (·.id ∈ (t.run moves).2.members) = (t.run moves).1 := by
  induction moves generalizing t m with
  | nil => exact ⟨h, rfl⟩
  | cons move moves ih =>
    obtain ⟨hstands, hexecution⟩ := h.play move
    obtain ⟨hrest, hexecutions⟩ := ih hstands
    have hrun : t.run (move :: moves) =
        ((t.step move).1.toList ++ ((t.step move).2.run moves).1,
          ((t.step move).2.run moves).2) := rfl
    have hplay : m.playAll (move :: moves) =
        ((m.play move).1.toList ++ ((m.play move).2.playAll moves).1,
          ((m.play move).2.playAll moves).2) := rfl
    rw [hrun, hplay]
    refine ⟨hrest, ?_⟩
    -- What is executed exists, so that no later move makes a member of it.
    have hmember : ∀ x, (m.play move).1 = some x →
        (x.id ∈ ((t.step move).2.run moves).2.members ↔ x.id ∈ t.members) := by
      intro x hx
      have hlt : x.id < t.next := h.next ▸ Machine.lt_size_of_play hx
      rw [members_run, next_step, members_step]
      exact Machine.mem_kin_iff hlt (move :: moves)
    have hfirst : (m.play move).1.toList.filter
        (·.id ∈ ((t.step move).2.run moves).2.members) = (t.step move).1.toList := by
      rw [← hexecution]
      cases hx : (m.play move).1 with
      | none => rfl
      | some x =>
        by_cases hid : x.id ∈ t.members
        · simp [Option.filter, (hmember x hx).mpr hid, hid]
        · simp [Option.filter, mt (hmember x hx).mp hid, hid]
    rw [List.filter_append, hfirst, hexecutions]

end Stands

/-- A family that consists of a new instance. -/
def ofOccurrence (first : InstanceId) : Tally :=
  { next := first + 1, members := [first], shared := 0, own := fun _ => 0 }

theorem stands_create {m : Machine} (h : m.store.FamiliesExist) :
    (ofOccurrence m.store.instances.size).Stands (m.play (.create counter)).2
      m.store.families.size where
  next := m.size_play (.create counter)
  known := by
    simp [Machine.play]
  shared := by
    simp only [Machine.play, Store.shared_create, Store.shared_size]
    rfl
  members := by
    intro id hid
    rw [List.mem_singleton.mp hid]
    exact m.store.get?_create_self counter
  others := by
    intro id inst hi hid
    have hne : id ≠ m.store.instances.size := fun heq => hid (List.mem_singleton.mpr heq)
    simp only [Machine.play, Store.get?_create, if_neg hne] at hi
    exact Nat.ne_of_lt (h id inst hi)

end Tally

end TextTemplate
