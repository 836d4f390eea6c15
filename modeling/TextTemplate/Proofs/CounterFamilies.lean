import TextTemplate.Proofs.CounterTallies

/-!
# Families of counters

An occurrence of `__counter` in a text gives a family: its instance, the clones of that, and
theirs.

* `Tally.counts_up`: what goes up by one with each execution of some kind gives consecutive
  results.
* `Tally.run_filter_keeps`: executions of other instances make no difference.
* `Machine.counter_families` collects what follows for the family of an occurrence.
-/

namespace TextTemplate

open Library (counter CounterMode refusal)
open Machine (Move Turn)

namespace Tally

/-! ## Consecutive results -/

/-- What goes up by one with each execution of some kind, and is shown by it, and stays as it is
otherwise, gives consecutive results. -/
theorem counts_up {p : Turn → Bool} (value : Tally → Nat) {P : Tally → Prop}
    (hkeep : ∀ t move, P t → P (t.step move).2)
    (hother : ∀ t move, P t → (t.step move).1.filter p = none → value (t.step move).2 = value t)
    (hshown : ∀ t move x, P t → (t.step move).1.filter p = some x →
      x.result = shownCount (value t + 1) ∧ value (t.step move).2 = value t + 1)
    {t : Tally} (ht : P t) (moves : List Move) :
    ((t.run moves).1.filter p).map Turn.result =
      (List.range' (value t + 1) ((t.run moves).1.filter p).length).map shownCount := by
  induction moves generalizing t with
  | nil => rfl
  | cons move moves ih =>
    have hrest := ih (hkeep t move ht)
    have hsplit : (t.run (move :: moves)).1.filter p =
        ((t.step move).1.filter p).toList ++ ((t.step move).2.run moves).1.filter p := by
      rw [Option.toList_filter]
      exact List.filter_append ..
    rw [hsplit]
    cases hx : (t.step move).1.filter p with
    | none =>
      rw [hother t move ht hx] at hrest
      exact hrest
    | some x =>
      obtain ⟨hresult, hvalue⟩ := hshown t move x ht hx
      rw [hvalue] at hrest
      rw [Option.toList_some, List.singleton_append, List.map_cons, List.length_cons,
        List.range'_succ, List.map_cons, hresult, hrest]

variable {t : Tally}

/-- An execution is one of a member. -/
theorem of_step_eq_some {move : Move} {x : Turn} (h : (t.step move).1 = some x) :
    ∃ scene, move = .execute scene x.id x.arguments ∧ x.id ∈ t.members ∧
      x.result = (counted (t.own x.id) t.shared x.arguments).result ∧
      (t.step move).2 = t.after x.id (counted (t.own x.id) t.shared x.arguments) := by
  cases move with
  | create | clone => cases h
  | execute scene id arguments =>
    by_cases hid : id ∈ t.members
    · have hstep := step_execute_of_mem hid scene arguments
      rw [hstep] at h
      cases h
      exact ⟨scene, rfl, hid, rfl, by rw [hstep]⟩
    · rw [step_execute_of_not_mem hid] at h
      cases h

/-- A move without an execution leaves all counts as they are. -/
theorem of_step_eq_none {move : Move} (h : (t.step move).1 = none) :
    (t.step move).2.shared = t.shared ∧
      ∀ id, id ≠ t.next → (t.step move).2.own id = t.own id := by
  cases move with
  | create routine => exact ⟨rfl, fun id _ => rfl⟩
  | clone source =>
    refine ⟨rfl, fun id hid => ?_⟩
    simp only [step]
    split
    · rw [Function.update_of_ne hid]
    · rfl
  | execute scene id arguments =>
    by_cases hid : id ∈ t.members
    · rw [step_execute_of_mem hid] at h
      cases h
    · rw [step_execute_of_not_mem hid]
      exact ⟨rfl, fun id _ => rfl⟩

/-- Only executions that count for the family change its count. -/
theorem shared_counted {arguments : List String}
    (h : CounterMode.ofArguments arguments ≠ some .shared) (own shared : Nat) :
    (counted own shared arguments).shared = shared := by
  unfold counted
  split
  · rfl
  · exact absurd ‹_› h
  · rfl

/-- Only executions that count for an instance by itself change its own count. -/
theorem own_counted {arguments : List String}
    (h : CounterMode.ofArguments arguments ≠ some .perCopy) (own shared : Nat) :
    (counted own shared arguments).own = own := by
  unfold counted
  split
  · exact absurd ‹_› h
  · rfl
  · rfl

theorem own_counted_le (own shared : Nat) (arguments : List String) :
    (counted own shared arguments).own ≤ own + 1 := by
  unfold counted
  split
  · exact Nat.le_refl _
  · exact Nat.le_succ _
  · exact Nat.le_succ _

/-- The executions that count for the family give consecutive results. -/
theorem shared_counts_up (t : Tally) (moves : List Move) :
    ((t.run moves).1.filter Turn.isShared).map Turn.result =
      (List.range' (t.shared + 1) ((t.run moves).1.filter Turn.isShared).length).map
        shownCount := by
  refine counts_up Tally.shared (P := fun _ => True) (fun _ _ _ => trivial) ?_ ?_ trivial moves
  · intro t move _ hnone
    cases hx : (t.step move).1 with
    | none => exact (of_step_eq_none hx).1
    | some x =>
      obtain ⟨-, -, -, -, hafter⟩ := of_step_eq_some hx
      have hmode : CounterMode.ofArguments x.arguments ≠ some .shared := by
        simpa [hx, Option.filter, Turn.isShared] using hnone
      rw [hafter, shared_after, shared_counted hmode]
  · intro t move x _ hsome
    obtain ⟨hx, hshared⟩ := Option.filter_eq_some_iff.mp hsome
    obtain ⟨-, -, -, hresult, hafter⟩ := of_step_eq_some hx
    rw [counted_shared (of_decide_eq_true hshared)] at hresult hafter
    rw [hafter]
    exact ⟨hresult, rfl⟩

/-- The executions that count for a member by itself give consecutive results. -/
theorem own_counts_up {id : InstanceId} (hid : id ∈ t.members)
    (hlt : ∀ id ∈ t.members, id < t.next) (moves : List Move) :
    ((t.run moves).1.filter (Turn.isOwn id)).map Turn.result =
      (List.range' (t.own id + 1) ((t.run moves).1.filter (Turn.isOwn id)).length).map
        shownCount := by
  -- A member stays one, and is no new instance.
  refine counts_up (fun t => t.own id) (P := fun t => id ∈ t.members ∧ id < t.next) ?_ ?_ ?_
    ⟨hid, hlt id hid⟩ moves
  · rintro t move ⟨hid, hlt⟩
    rw [members_step, next_step, move.mem_kin_iff hlt]
    exact ⟨hid, Nat.lt_of_lt_of_le hlt (move.le_next t.next)⟩
  · rintro t move ⟨-, hlt⟩ hnone
    cases hx : (t.step move).1 with
    | none => exact (of_step_eq_none hx).2 id (Nat.ne_of_lt hlt)
    | some x =>
      obtain ⟨-, -, -, -, hafter⟩ := of_step_eq_some hx
      rw [hafter, own_after]
      by_cases heq : x.id = id
      · have hmode : CounterMode.ofArguments x.arguments ≠ some .perCopy := by
          simpa [hx, Option.filter, Turn.isOwn, heq] using hnone
        rw [heq, Function.update_self, own_counted hmode]
      · rw [Function.update_of_ne (Ne.symm heq)]
  · intro t move x _ hsome
    obtain ⟨hx, hown⟩ := Option.filter_eq_some_iff.mp hsome
    obtain ⟨-, -, -, hresult, hafter⟩ := of_step_eq_some hx
    have hboth : x.id = id ∧ CounterMode.ofArguments x.arguments = some .perCopy := by
      simpa [Turn.isOwn] using hown
    obtain ⟨rfl, hmode⟩ := hboth
    rw [counted_perCopy hmode] at hresult hafter
    rw [hafter, own_after, Function.update_self]
    exact ⟨hresult, rfl⟩

/-- Every execution counts one further at most, and clones do not. -/
theorem own_step_le {bound : Nat} (h : ∀ id ∈ t.members, t.own id ≤ bound) (move : Move) :
    ∀ id ∈ (t.step move).2.members,
      (t.step move).2.own id ≤ bound + (t.step move).1.toList.length := by
  intro id hid
  rw [members_step] at hid
  cases move with
  | create routine => exact h id hid
  | clone source =>
    by_cases hsource : source ∈ t.members
    · simp only [Move.kin, if_pos hsource, List.mem_cons] at hid
      simp only [step, if_pos hsource, Option.toList_none, List.length_nil, Nat.add_zero]
      by_cases hnew : id = t.next
      · rw [hnew, Function.update_self]
        exact h source hsource
      · rw [Function.update_of_ne hnew]
        exact h id (hid.resolve_left hnew)
    · simp only [Move.kin, if_neg hsource] at hid
      simp only [step, if_neg hsource]
      exact h id hid
  | execute scene executed arguments =>
    by_cases hexecuted : executed ∈ t.members
    · rw [step_execute_of_mem hexecuted, own_after]
      by_cases heq : id = executed
      · subst heq
        have hone := own_counted_le (t.own id) t.shared arguments
        have hbound := h id hexecuted
        rw [Function.update_self]
        exact Nat.le_trans hone (Nat.succ_le_succ hbound)
      · rw [Function.update_of_ne heq]
        exact Nat.le_succ_of_le (h id hid)
    · rw [step_execute_of_not_mem hexecuted]
      exact h id hid

/-- No member counts further than there are executions. -/
theorem own_run_le {bound : Nat} (h : ∀ id ∈ t.members, t.own id ≤ bound) (moves : List Move) :
    ∀ id ∈ (t.run moves).2.members, (t.run moves).2.own id ≤ bound + (t.run moves).1.length := by
  induction moves generalizing t bound with
  | nil => exact h
  | cons move moves ih =>
    have hlength : (t.run (move :: moves)).1.length =
        (t.step move).1.toList.length + ((t.step move).2.run moves).1.length :=
      List.length_append
    rw [hlength, ← Nat.add_assoc]
    exact ih (own_step_le h move)

/-- Other arguments are refused. -/
theorem refused_of_mem_run (t : Tally) (moves : List Move) :
    ∀ x ∈ (t.run moves).1, CounterMode.ofArguments x.arguments = none →
      x.result = .error (refusal x.arguments) := by
  induction moves generalizing t with
  | nil => exact nofun
  | cons move moves ih =>
    refine List.forall_mem_append.mpr ⟨?_, ih _⟩
    intro x hx hmode
    obtain ⟨-, -, -, hresult, -⟩ := of_step_eq_some (Option.mem_toList.mp hx)
    rw [hresult, counted_refused hmode]

/-! ## Other instances -/

/-- Whether a move is no execution, or one of these instances. -/
def keeps (ids : List InstanceId) : Move → Bool
  | .create _ => true
  | .clone _ => true
  | .execute _ id _ => id ∈ ids

/-- Executions of instances that are never members make no difference. -/
theorem run_filter_keeps {ids : List InstanceId} (t : Tally) (moves : List Move)
    (h : ∀ id ∈ (t.run moves).2.members, id ∈ ids) :
    t.run (moves.filter (keeps ids)) = t.run moves := by
  induction moves generalizing t with
  | nil => rfl
  | cons move moves ih =>
    have hrest := ih (t.step move).2 h
    by_cases hkeeps : keeps ids move = true
    · rw [List.filter_cons_of_pos hkeeps]
      simp only [run, hrest]
    · rw [List.filter_cons_of_neg hkeeps]
      cases move with
      | create | clone => exact absurd rfl hkeeps
      | execute scene id arguments =>
        have hid : id ∉ t.members := by
          intro hm
          have hfinal :=
            Machine.subset_kin t.next t.members (.execute scene id arguments :: moves) hm
          rw [← members_run] at hfinal
          exact hkeeps (decide_eq_true (h id hfinal))
        rw [step_execute_of_not_mem hid] at hrest
        rw [hrest]
        simp only [run, step_execute_of_not_mem hid]
        rfl

end Tally

/-! ## The family of an occurrence -/

/-- The results that show `k` counts one after the other, from the one after `n` on. -/
def consecutive (n k : Nat) : List (Except InvocationError String) :=
  (List.range' (n + 1) k).map fun i => .ok (toString i)

/-- Counts that fit are shown as they are. -/
theorem map_shownCount {n k : Nat} (h : n + k < UInt64.size) :
    (List.range' (n + 1) k).map shownCount = consecutive n k := by
  apply List.map_congr_left
  intro i hi
  have hlt : i < UInt64.size := by
    have := (List.mem_range'_1.mp hi).2
    omega
  rw [shownCount, Nat.mod_eq_of_lt hlt]

namespace Tally

/-- From any moment on, the executions that count for one member by itself go on from its count. -/
theorem own_consecutive (first : InstanceId) (now rest : List Move) :
    let t := ((ofOccurrence first).run now).2
    (∀ id ∈ t.members, id < t.next) →
      ((ofOccurrence first).run (now ++ rest)).1.length < UInt64.size →
      ∀ id ∈ t.members, t.own id < UInt64.size ∧
        ((t.run rest).1.filter (Turn.isOwn id)).map Turn.result =
          consecutive (t.own id) ((t.run rest).1.filter (Turn.isOwn id)).length := by
  intro t hlt hcount id hid
  have hown : t.own id ≤ 0 + ((ofOccurrence first).run now).1.length :=
    own_run_le (fun _ _ => Nat.le_refl 0) now id hid
  have hlength : ((ofOccurrence first).run (now ++ rest)).1.length =
      ((ofOccurrence first).run now).1.length + (t.run rest).1.length := by
    rw [run_append, List.length_append]
  have hle : ((t.run rest).1.filter (Turn.isOwn id)).length ≤ (t.run rest).1.length :=
    List.length_filter_le _ _
  refine ⟨by omega, ?_⟩
  rw [own_counts_up hid hlt rest]
  exact map_shownCount (by omega)

end Tally

namespace Machine

/-- The executions of one of some instances are executions of these. -/
theorem filter_isOwn {ids : List InstanceId} {id : InstanceId} (h : id ∈ ids)
    (executions : List Turn) :
    (executions.filter (·.id ∈ ids)).filter (Turn.isOwn id) =
      executions.filter (Turn.isOwn id) := by
  rw [List.filter_filter]
  apply List.filter_congr
  intro x _
  by_cases hx : x.id = id
  · simp [hx, h]
  · simp [Turn.isOwn, hx]

/-- The family of an occurrence of `__counter`, which comes after any other moves: its first
instance, the clones of that, and theirs, executed in any order, fewer than 2^64 times in all. The
executions that count for the family give 1, 2, 3, … all over it. From any moment on, those that
count for one instance go on from its own count; that is 0 at first, and that of its source for a
clone. Other arguments are refused and change nothing. Executions of other instances make no
difference. -/
theorem counter_families (entropy : Entropy) (before after : List Move) :
    let m := (playAll { entropy } before).2
    let first := m.store.instances.size
    let family := m.store.families.size
    let start := (m.play (.create counter)).2
    let members := kin (first + 1) [first]
    let executions := (start.playAll after).1.filter (·.id ∈ members after)
    executions.length < UInt64.size →
      (executions.filter Turn.isShared).map Turn.result =
          consecutive 0 (executions.filter Turn.isShared).length ∧
        start.store.get? first = some ⟨counter, (0 : UInt64), family⟩ ∧
        (∀ now rest, after = now ++ rest → ∀ id ∈ members now, ∃ own : UInt64,
          (start.playAll now).2.store.get? id = some ⟨counter, own, family⟩ ∧
            let later := ((start.playAll now).2.playAll rest).1.filter (Turn.isOwn id)
            later.map Turn.result = consecutive own.toNat later.length) ∧
        (∀ now source, source ∈ members now →
          let here := (start.playAll now).2
          here.store.instances.size ∈ members (now ++ [.clone source]) ∧
            (here.play (.clone source)).2.store.get? here.store.instances.size =
              here.store.get? source) ∧
        (∀ x ∈ executions, CounterMode.ofArguments x.arguments = none →
          x.result = .error (refusal x.arguments)) ∧
        (∀ now scene id arguments, id ∈ members now → CounterMode.ofArguments arguments = none →
          ((start.playAll now).2.play (.execute scene id arguments)).2.store =
            (start.playAll now).2.store) ∧
        (start.playAll (after.filter (Tally.keeps (members after)))).1.filter
          (·.id ∈ members after) = executions := by
  intro m first family start members executions hcount
  have hexist : m.store.FamiliesExist :=
    familiesExist_playAll (fun _ _ h => absurd h (by simp [Store.get?])) before
  have hstart : (Tally.ofOccurrence first).Stands start family := Tally.stands_create hexist
  have hmembers : ∀ moves, ((Tally.ofOccurrence first).run moves).2.members = members moves :=
    fun moves => Tally.members_run _ moves
  have hnow : ∀ now, ((Tally.ofOccurrence first).run now).2.Stands (start.playAll now).2 family :=
    fun now => (hstart.playAll now).1
  have hexecutions : executions = ((Tally.ofOccurrence first).run after).1 := by
    rw [← (hstart.playAll after).2]
    simp only [hmembers, executions]
  have hlength : executions.length = ((Tally.ofOccurrence first).run after).1.length :=
    congrArg List.length hexecutions
  refine ⟨?_, Store.get?_create_self m.store counter, ?_, ?_, ?_, ?_, ?_⟩
  · have hzero : (Tally.ofOccurrence first).shared = 0 := rfl
    rw [hexecutions, Tally.shared_counts_up, hzero]
    apply map_shownCount
    have hle : (((Tally.ofOccurrence first).run after).1.filter Turn.isShared).length ≤
        ((Tally.ofOccurrence first).run after).1.length := List.length_filter_le _ _
    omega
  · intro now rest hafter id hid
    rw [← hmembers] at hid
    rw [hlength, hafter] at hcount
    obtain ⟨hlt, hresults⟩ :=
      Tally.own_consecutive first now rest (hnow now).lt_next hcount id hid
    refine ⟨_, (hnow now).members id hid, ?_⟩
    intro later
    have hfinal : id ∈ ((((Tally.ofOccurrence first).run now).2).run rest).2.members := by
      rw [Tally.members_run]
      exact subset_kin _ _ rest hid
    have hlater : later = ((((Tally.ofOccurrence first).run now).2).run rest).1.filter
        (Turn.isOwn id) := by
      rw [← ((hnow now).playAll rest).2, filter_isOwn hfinal]
    rw [hlater, hresults, UInt64.toNat_ofNat', Nat.mod_eq_of_lt hlt]
  · intro now source hsource here
    rw [← hmembers] at hsource
    have hs := (hnow now).members source hsource
    refine ⟨?_, ?_⟩
    · have hstep : ((Tally.ofOccurrence first).run (now ++ [.clone source])).2.members =
          (((Tally.ofOccurrence first).run now).2.step (.clone source)).2.members := by
        rw [Tally.run_append]
        rfl
      rw [← hmembers, hstep, Tally.members_step, Move.kin, if_pos hsource, (hnow now).next]
      exact List.mem_cons_self
    · have hclone := here.store.get?_clone hs here.store.instances.size
      rw [if_pos rfl, ← hs] at hclone
      exact hclone
  · rw [hexecutions]
    exact Tally.refused_of_mem_run _ after
  · intro now scene id arguments hid hmode
    rw [← hmembers] at hid
    exact store_play_refused ((hnow now).members id hid) hmode scene
  · have hkeeps := Tally.run_filter_keeps (Tally.ofOccurrence first) after
      (fun id hid => hmembers after ▸ hid)
    have hfiltered := (hstart.playAll (after.filter (Tally.keeps (members after)))).2
    rw [hkeeps] at hfiltered
    rw [hexecutions, ← hfiltered]
    simp only [hmembers]

/-- An instance and its clone count on for both of them, also after the clone counts for itself. -/
theorem counter_families_clone :
    let scene : Scene := ⟨{}, ⟨⟨0, 0⟩, 0, fun _ => .error .notFound⟩⟩
    let moves : List Move :=
      [.execute scene 0 ["false"], .clone 0, .execute scene 1 [], .execute scene 1 [" FALSE "]]
    let start := (Machine.play { entropy := ⟨0⟩ } (.create counter)).2
    let executions := (start.playAll moves).1.filter (·.id ∈ kin 1 [0] moves)
    executions.length < UInt64.size ∧
      (executions.filter Turn.isShared).map Turn.result = [.ok "1", .ok "2"] := by
  intro scene moves start executions
  have hlength : executions.length < UInt64.size := by decide +kernel
  refine ⟨hlength, ?_⟩
  have hshared : (executions.filter Turn.isShared).map Turn.result =
      consecutive 0 (executions.filter Turn.isShared).length :=
    (counter_families ⟨0⟩ [] moves hlength).1
  have hcount : (executions.filter Turn.isShared).length = 2 := by decide +kernel
  rw [hshared, hcount]
  rfl

end Machine

end TextTemplate
