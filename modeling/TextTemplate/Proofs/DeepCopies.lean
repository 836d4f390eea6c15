import Mathlib.Data.List.Basic
import TextTemplate.Proofs.Renaming
import TextTemplate.Proofs.ShallowFamilies

/-!
# Deep copies go their own way

An expression and a deep copy of it do not notice each other: each gives what it would give alone,
as long as no execution looks at what instances have in common.

* `Expression.duplicateDeep_eq`: a deep copy is the expression with renamed instances, which are in
  the states of the original ones.
* `Session.Reflects`, the simulation relation, holds between a session with two expressions and one
  in which only one of them is evaluated. `Session.deep_copy_isolated` is what follows for runs.
-/

namespace TextTemplate

/-! ## Clones -/

namespace Store

theorem clone_of_lt (store : Store) {id : InstanceId} (h : id < store.instances.size) :
    ∃ inst, store.get? id = some inst ∧ store.clone id =
      (store.instances.size, { store with instances := store.instances.push inst }) := by
  have hget : store.get? id = some store.instances[id] := Array.getElem?_eq_getElem h
  exact ⟨_, hget, by simp only [clone, hget]⟩

/-- Clones instances, one after the other. -/
def cloneAll (store : Store) (ids : List InstanceId) : Store :=
  (Expression.relabelAll (fun id store => store.clone id) ids store).2

theorem get?_cloneAll_of_lt (store : Store) (ids : List InstanceId) {id : InstanceId}
    (h : id < store.instances.size) : (store.cloneAll ids).get? id = store.get? id := by
  induction ids generalizing store with
  | nil => rfl
  | cons copied ids ih =>
    have hsize : id < (store.clone copied).2.instances.size := by
      unfold clone
      split
      · exact h
      · rw [Array.size_push]
        exact Nat.lt_succ_of_lt h
    exact (ih _ hsize).trans (get?_clone_of_lt store copied h)

/-- The clones stand at the end of the store, in the order of the instances that they are made of
and in their states. -/
theorem get?_cloneAll (store : Store) {ids : List InstanceId}
    (h : ∀ id ∈ ids, id < store.instances.size) {k : Nat} {id : InstanceId}
    (hk : ids[k]? = some id) :
    (store.cloneAll ids).get? (store.instances.size + k) = store.get? id := by
  induction ids generalizing store k with
  | nil => cases hk
  | cons copied ids ih =>
    rcases store.clone_of_lt (h copied (by simp)) with ⟨inst, hget, hclone⟩
    have hsize : (store.clone copied).2.instances.size = store.instances.size + 1 := by
      rw [hclone, Array.size_push]
    have hlt : ∀ id ∈ ids, id < (store.clone copied).2.instances.size := by
      intro id hm
      rw [hsize]
      exact Nat.lt_succ_of_lt (h id (List.mem_cons_of_mem copied hm))
    have hself : (store.clone copied).2.get? store.instances.size = some inst := by
      have hc := store.get?_clone_self hget
      rw [hclone] at hc ⊢
      exact hc
    -- The first clone is the first new instance, and those after it leave it as it is.
    cases k with
    | zero =>
      cases hk
      rw [Nat.add_zero, hget, ← hself]
      exact get?_cloneAll_of_lt _ ids (by rw [hsize]; exact Nat.lt_succ_self _)
    | succ k =>
      have hid : id < store.instances.size :=
        h id (List.mem_of_getElem? hk)
      have hrest := ih (store.clone copied).2 hlt (k := k) (by simpa using hk)
      rw [hsize, get?_clone_of_lt store copied hid] at hrest
      rw [show store.instances.size + (k + 1) = store.instances.size + 1 + k by omega]
      exact hrest

end Store

namespace Expression

/-- The number that an instance of an expression has in a deep copy. -/
def copyId (e : LiveExpression) (store : Store) (id : InstanceId) : InstanceId :=
  store.instances.size + e.callees.idxOf id

theorem copyId_injective (e : LiveExpression) (store : Store) :
    ∀ i ∈ e.callees, ∀ j ∈ e.callees, e.copyId store i = e.copyId store j → i = j := by
  intro i hi j hj h
  exact (List.idxOf_inj hi).mp (Nat.add_left_cancel h)

theorem map_copyId {e : LiveExpression} (h : e.callees.Nodup) (store : Store) :
    e.callees.map (e.copyId store) = List.range' store.instances.size e.callCount := by
  apply List.ext_getElem
  · rw [List.length_map, List.length_range', callCount]
  · intro k hk hk'
    rw [List.length_map] at hk
    rw [List.getElem_map, List.getElem_range', copyId, h.idxOf_getElem k hk, Nat.one_mul]

/-- A deep copy is the expression with renamed instances, which are new and in the states of the
original ones. -/
theorem duplicateDeep_eq {e : LiveExpression} {store : Store}
    (hw : e.Within store.instances.size) (hn : e.callees.Nodup) :
    (e.duplicateDeep store).1 = e.rename (e.copyId store) ∧
      ∀ id ∈ e.callees, (e.duplicateDeep store).2.get? (e.copyId store id) = store.get? id := by
  constructor
  · apply relabel_eq_rename
    rw [← callees_relabel, map_copyId hn]
    exact (callees_duplicateDeep hw).1
  · intro id hm
    rw [duplicateDeep, relabel_state]
    exact store.get?_cloneAll hw (List.getElem?_idxOf hm)

end Expression

namespace Session

/-- The instances of an expression are all different at all times. -/
theorem stable_nodup : Stable fun _ e => e.callees.Nodup where
  grows _ h := h
  empty _ := by simp [Expression.empty, Expression.callees, Expression.calleesOfPieces]
  instantiate parsed store := by
    rw [(Expression.callees_instantiate parsed store).1]
    exact List.nodup_range'
  evaluate scene m h := by
    rwa [Expression.callees_eq_of_uncached_eq (Expression.evaluate_uncached scene _ m)]
  duplicate deep hw h := by
    cases deep with
    | true =>
      have hc := (Expression.callees_duplicateDeep hw).1
      simp only [Expression.duplicate, if_true, hc]
      exact List.nodup_range'
    | false =>
      have hu := Expression.duplicateShallow_uncached
      simp only [Expression.duplicate, Bool.false_eq_true, if_false]
      rwa [Expression.callees_eq_of_uncached_eq (hu _)]

/-! ## Turns -/

/-- Whether a step evaluates one of two expressions, or changes what the evaluations after it
see. -/
def Action.IsTurn (a b : String) : Action → Prop
  | .evaluate name => name = a ∨ name = b
  | .resume _ _ _ => True
  | _ => False

/-- What is left of a step when only the evaluations of `kept` are made, and made of `name`. -/
def Action.only (kept name : String) : Action → Option Action
  | .evaluate other => if other = kept then some (.evaluate name) else none
  | .resume engine context world => some (.resume engine context world)
  | _ => none

/-- Whether a step evaluates the expression with a name. -/
def Action.evaluates (name : String) : Action → Bool
  | .evaluate other => other = name
  | _ => false

/-- The texts that evaluations of the expression with a name give in the course of steps. -/
def textsOf (name : String) (actions : List Action) (outcomes : List Outcome) : List String :=
  (actions.zip outcomes).filterMap fun step =>
    if step.1.evaluates name then step.2.output? else none

theorem isTurn_evaluate (name : String) : (Action.evaluate name).IsTurn name name := .inl rfl

/-- The first of the steps is an evaluation that gives a text. -/
theorem textsOf_cons_self (name text : String) (actions : List Action)
    (outcomes : List Outcome) :
    textsOf name (.evaluate name :: actions) (.output text :: outcomes) =
      text :: textsOf name actions outcomes := by
  simp [textsOf, Action.evaluates, Outcome.output?]

/-- The first of the steps is something else. -/
theorem textsOf_cons_of_not {name : String} {action : Action}
    (h : action.evaluates name = false) (actions : List Action) (outcome : Outcome)
    (outcomes : List Outcome) :
    textsOf name (action :: actions) (outcome :: outcomes) = textsOf name actions outcomes := by
  simp [textsOf, h]

theorem turn_evolves (s : Session) {a b : String} {action : Action} (h : action.IsTurn a b) :
    s.machine.Evolves (s.perform action).2.machine := by
  cases action with
  | evaluate name =>
    cases he : s.expression? name with
    | none =>
      rw [perform_evaluate_none s he]
      exact .refl _
    | some e =>
      rw [perform_evaluate_some s he]
      exact Expression.evaluate_develops (Machine.development_evolves s.scene) e s.machine
        fun _ _ => trivial
  | resume engine context world => exact .refl _
  | compile | bindEmpty | duplicate | drop => exact h.elim

theorem run_evolves (s : Session) {a b : String} {actions : List Action}
    (h : ∀ action ∈ actions, action.IsTurn a b) :
    s.machine.Evolves (s.run actions).2.machine := by
  induction actions generalizing s with
  | nil => exact .refl _
  | cons action actions ih =>
    have hfirst := s.turn_evolves (h action (by simp))
    exact hfirst.trans (ih _ fun other ho => h other (List.mem_cons_of_mem action ho))

/-- In turns, all expressions stay the same, caches aside. -/
theorem Holds.turn {s : Session} {tree : LiveExpression} {name a b : String} {action : Action}
    (h : s.Holds tree name) (ht : action.IsTurn a b) : (s.perform action).2.Holds tree name := by
  have hkin : action.kin [name] (s.perform action).1 = [name] := by
    cases action with
    | evaluate | resume => rfl
    | compile | bindEmpty | duplicate | drop => exact ht.elim
  refine (s.transition action).holds (List.forall_mem_singleton.mpr h) name ?_
  rw [hkin]
  exact List.mem_singleton_self name

/-! ## Two expressions and one -/

/-- In the session `s`, the name `kept` is bound to the expression `e` with renamed instances. They
are in the states in which the original ones are in `s'`, where `name` is bound to `e` itself. -/
structure Reflects (m₀ : Machine) (ρ : InstanceId → InstanceId) (e : LiveExpression)
    (kept name : String) (s s' : Session) : Prop where
  scene : s.scene = s'.scene
  machine : m₀.Mirrors ρ e.callees s.machine s'.machine
  renamed : s.Holds (e.uncached.rename ρ) kept
  original : s'.Holds e.uncached name

namespace Reflects

variable {m₀ : Machine} {ρ : InstanceId → InstanceId} {e : LiveExpression} {kept name : String}
  {s s' : Session}

/-- The renamed expression gives what the original gives. -/
theorem evaluate (h : Reflects m₀ ρ e kept name s s')
    (hρ : ∀ i ∈ e.callees, ∀ j ∈ e.callees, ρ i = ρ j → i = j)
    (hq : m₀.Quiet (s.perform (.evaluate kept)).2.machine) :
    (∃ text, (s.perform (.evaluate kept)).1 = .output text ∧
      (s'.perform (.evaluate name)).1 = .output text) ∧
    Reflects m₀ ρ e kept name (s.perform (.evaluate kept)).2
      (s'.perform (.evaluate name)).2 := by
  have hrenamed := h.renamed.turn (isTurn_evaluate kept)
  have horiginal := h.original.turn (isTurn_evaluate name)
  rcases h.renamed with ⟨f, hf, hs, hu⟩
  rcases h.original with ⟨g, hg, hs', hu'⟩
  rw [perform_evaluate_some _ hf] at hq hrenamed ⊢
  rw [perform_evaluate_some _ hg] at horiginal ⊢
  -- Either expression has the value that it has without caches, and these values are the same.
  rcases Expression.evaluate_uncached_alike s.scene f hs (.refl s.machine) with ⟨ht, hm⟩
  rcases Expression.evaluate_uncached_alike s'.scene g hs' (.refl s'.machine) with ⟨ht', hm'⟩
  rw [hu] at ht hm
  rw [hu', ← h.scene] at ht' hm'
  rcases Expression.evaluate_mirrors hρ s.scene e (fun _ hid => hid) h.machine (hq.of_alike hm)
    with ⟨htext, hmirrors⟩
  rw [← h.scene] at horiginal ⊢
  exact ⟨⟨_, rfl, by rw [ht, htext, ← ht']⟩, h.scene, hmirrors.of_alike hm hm', hrenamed, horiginal⟩

/-- The evaluation of an expression that drives other instances makes no difference. -/
theorem evaluate_other (h : Reflects m₀ ρ e kept name s s') {other : String}
    {tree : LiveExpression} (hother : s.Holds tree other)
    (hd : ∀ id ∈ e.callees, ρ id ∉ tree.callees) :
    Reflects m₀ ρ e kept name (s.perform (.evaluate other)).2 s' := by
  have hrenamed := h.renamed.turn (isTurn_evaluate other)
  have hevolves := s.turn_evolves (isTurn_evaluate other)
  rcases hother with ⟨f, hf, -, hu⟩
  rw [perform_evaluate_some _ hf] at hrenamed hevolves ⊢
  -- What is bound to the name drives the instances of the tree, none of which is a renamed one.
  have hcallees : f.callees = tree.callees := by rw [← hu, Expression.callees_uncached]
  have hstates : ∀ id ∈ e.callees,
      (f.evaluate s.scene s.machine).2.2.store.get? (ρ id) = s.machine.store.get? (ρ id) := by
    intro id hid
    refine Expression.evaluate_develops (Machine.development_get? s.scene (ρ id)) f s.machine ?_
    intro driven hdriven heq
    exact hd id hid (heq ▸ hcallees ▸ hdriven)
  refine ⟨h.scene, ⟨h.machine.base.trans hevolves, fun id hid => ?_⟩, hrenamed, h.original⟩
  exact (hstates id hid).trans (h.machine.states id hid)

theorem resume (h : Reflects m₀ ρ e kept name s s') (engine : Engine) (context : Context)
    (world : World) :
    Reflects m₀ ρ e kept name (s.perform (.resume engine context world)).2
      (s'.perform (.resume engine context world)).2 :=
  ⟨rfl, h.machine, h.renamed, h.original⟩

/-- In turns, the renamed expression gives what the original gives alone, by induction on the
turns. -/
theorem run (h : Reflects m₀ ρ e kept name s s')
    (hρ : ∀ i ∈ e.callees, ∀ j ∈ e.callees, ρ i = ρ j → i = j) {other : String}
    {tree : LiveExpression} (hother : s.Holds tree other)
    (hd : ∀ id ∈ e.callees, ρ id ∉ tree.callees) (hne : other ≠ kept) {actions : List Action}
    (ha : ∀ action ∈ actions, action.IsTurn kept other)
    (hq : m₀.Quiet (s.run actions).2.machine) :
    textsOf kept actions (s.run actions).1 =
        (s'.run (actions.filterMap (Action.only kept name))).1.filterMap Outcome.output? ∧
      (textsOf kept actions (s.run actions).1).length =
        actions.countP (Action.evaluates kept) := by
  induction actions generalizing s s' with
  | nil => exact ⟨rfl, rfl⟩
  | cons action actions ih =>
    have hturn := ha action (by simp)
    have hrest : ∀ action ∈ actions, action.IsTurn kept other :=
      fun action hm => ha action (List.mem_cons_of_mem _ hm)
    have hq₁ : m₀.Quiet (s.perform action).2.machine := hq.of_evolves (run_evolves _ hrest)
    have hother' := hother.turn hturn
    cases action with
    | evaluate evaluated =>
      -- The original takes part in the one case, and is left alone in the other.
      rcases hturn with rfl | rfl
      · rcases h.evaluate hρ hq₁ with ⟨⟨text, ht, ht'⟩, hnext⟩
        rcases ih hnext hother' hrest hq with ⟨htexts, hl⟩
        simp only [Session.run, ht, textsOf_cons_self, List.filterMap_cons, Action.only, if_true,
          ht', Outcome.output?, htexts, List.length_cons, List.countP_cons, Action.evaluates,
          decide_true]
        rw [← hl, htexts]
        exact ⟨trivial, rfl⟩
      · rcases ih (h.evaluate_other hother hd) hother' hrest hq with ⟨htexts, hl⟩
        have hnot : (Action.evaluate evaluated).evaluates kept = false := by
          simp [Action.evaluates, hne]
        simp only [Session.run, textsOf_cons_of_not hnot, List.filterMap_cons, Action.only,
          if_neg hne, List.countP_cons, hnot]
        exact ⟨htexts, hl⟩
    | resume engine context world =>
      rcases ih (h.resume engine context world) hother' hrest hq with ⟨htexts, hl⟩
      exact ⟨htexts, hl⟩
    | compile | bindEmpty | duplicate | drop => exact hturn.elim

end Reflects

theorem perform_deep_copy {s copied : Session} {name target : String}
    (h : s.perform (.duplicate name target true) = (.done, copied)) :
    ∃ e, s.expression? name = some e ∧ copied.scene = s.scene ∧
      copied.machine.store = (e.duplicateDeep s.machine.store).2 ∧
      Rebinds s copied target (some (e.duplicateDeep s.machine.store).1) := by
  cases he : s.expression? name with
  | none =>
    rw [perform_duplicate_none s true he] at h
    cases h
  | some e =>
    rw [perform_duplicate_some s true he] at h
    cases h
    exact ⟨e, rfl, rfl, rfl, fun other => expression?_bind _ target other _⟩

namespace Reflects

/-- At first, a deep copy is the expression with renamed instances in the same states. -/
theorem copy {s copied : Session} (h : s.Reachable) {name target : String} {e : LiveExpression}
    (he : s.expression? name = some e) (hscene : copied.scene = s.scene)
    (hstore : copied.machine.store = (e.duplicateDeep s.machine.store).2)
    (hnames : Rebinds s copied target (some (e.duplicateDeep s.machine.store).1)) :
    Reflects copied.machine (e.copyId s.machine.store) e target name copied s := by
  rcases h.all stable_sound name e he with ⟨hw, hs⟩
  have hn := (h.all stable_nodup name e he).2
  rcases Expression.duplicateDeep_eq hw hn with ⟨hcopy, hstates⟩
  refine ⟨hscene, ⟨.refl _, ?_⟩, ?_, ⟨e, he, hs, rfl⟩⟩
  · rw [hstore]
    exact hstates
  · refine ⟨_, hnames.self, Expression.sound_duplicate e true _, ?_⟩
    rw [Expression.rename_uncached, ← hcopy]

/-- An expression that is not renamed. -/
theorem self {s : Session} {name : String} {e : LiveExpression}
    (h : s.Holds e.uncached name) : Reflects s.machine id e name name s s :=
  ⟨rfl, ⟨.refl _, fun _ _ => rfl⟩, (Expression.rename_id e).symm ▸ h, h⟩

end Reflects

theorem Action.IsTurn.symm {a b : String} {action : Action} (h : action.IsTurn a b) :
    action.IsTurn b a := by
  cases action with
  | evaluate name => exact Or.symm h
  | resume => trivial
  | compile | bindEmpty | duplicate | drop => exact h.elim

/-- After a deep copy, evaluations of the expression and of the copy are taken in any order, each
with its own context. If their executions look at nothing that instances have in common, the
expression gives what it would give if the copy were never evaluated, and the copy gives what the
expression would have given in its place. -/
theorem deep_copy_isolated {s copied : Session} (h : s.Reachable) {name target : String}
    (hne : name ≠ target) (hcopy : s.perform (.duplicate name target true) = (.done, copied))
    {actions : List Action} (ha : ∀ action ∈ actions, action.IsTurn name target)
    (hapart : ∀ x ∈ (copied.run actions).2.machine.executions.drop
        copied.machine.executions.length, ∀ routine,
      copied.machine.store.routine? x.1 = some routine → Library.KeepsApart routine x.2) :
    let outcomes := (copied.run actions).1
    textsOf name actions outcomes =
        (copied.run (actions.filterMap (Action.only name name))).1.filterMap Outcome.output? ∧
      (textsOf name actions outcomes).length = actions.countP (Action.evaluates name) ∧
      textsOf target actions outcomes =
        (s.run (actions.filterMap (Action.only target name))).1.filterMap Outcome.output? ∧
      (textsOf target actions outcomes).length = actions.countP (Action.evaluates target) := by
  rcases perform_deep_copy hcopy with ⟨e, he, hscene, hstore, hnames⟩
  rcases h.all stable_sound name e he with ⟨hw, hs⟩
  -- Either expression is reflected by itself alone: the one as it is, the copy with other instances.
  have hquiet : copied.machine.Quiet (copied.run actions).2.machine :=
    fun x hx routine hr => (hapart x hx routine hr).solitary
  have hreflects : Reflects copied.machine (e.copyId s.machine.store) e target name copied s :=
    .copy h he hscene hstore hnames
  have hholds : copied.Holds e.uncached name :=
    ⟨e, (hnames.of_ne hne.symm).trans he, hs, rfl⟩
  -- The instances of the copy are new, so that they are none of the expression.
  have hnew : ∀ i ∈ e.callees, ∀ j ∈ e.callees, i ≠ e.copyId s.machine.store j := by
    intro i hi j hj
    have hlt := hw i hi
    rw [Expression.copyId]
    exact Nat.ne_of_lt (Nat.lt_add_right _ hlt)
  have hkept := (Reflects.self hholds).run (fun _ _ _ _ hij => hij) hreflects.renamed (by
    intro id hid hmem
    rw [Expression.callees_rename, Expression.callees_uncached] at hmem
    rcases List.mem_map.mp hmem with ⟨j, hj, heq⟩
    exact hnew id hid j hj heq.symm) hne.symm ha hquiet
  have hcopied := hreflects.run (e.copyId_injective s.machine.store) hholds (by
    intro id hid hmem
    rw [Expression.callees_uncached] at hmem
    exact hnew _ hmem id hid rfl) hne (fun action hm => (ha action hm).symm) hquiet
  exact ⟨hkept.1, hkept.2, hcopied.1, hcopied.2⟩

/-- Turns of an expression with a state and its copy. -/
theorem deep_copy_isolated_tally :
    let copied := (tallySession.perform (.duplicate "e" "c" true)).2
    let outcomes := (copied.run [.evaluate "e", .evaluate "c", .evaluate "c", .evaluate "e"]).1
    textsOf "e" [.evaluate "e", .evaluate "c", .evaluate "c", .evaluate "e"] outcomes =
        (copied.run [.evaluate "e", .evaluate "e"]).1.filterMap Outcome.output? ∧
      textsOf "c" [.evaluate "e", .evaluate "c", .evaluate "c", .evaluate "e"] outcomes =
        (tallySession.run [.evaluate "e", .evaluate "e"]).1.filterMap Outcome.output? := by
  obtain ⟨copied, hcopy⟩ :
      ∃ copied, tallySession.perform (.duplicate "e" "c" true) = (.done, copied) :=
    ⟨_, perform_duplicate_some tallySession true tallySession_expression?⟩
  have hturns : ∀ action ∈ [Action.evaluate "e", .evaluate "c", .evaluate "c", .evaluate "e"],
      action.IsTurn "e" "c" := by
    simp [Action.IsTurn]
  -- All instances are tallies, which keep apart.
  have htally : ∀ (id : InstanceId) (routine : Routine),
      copied.machine.store.routine? id = some routine → routine = Library.Samples.tally := by
    intro id routine hr
    rcases perform_deep_copy hcopy with ⟨e, he, -, hstore, -⟩
    rw [tallySession_expression?] at he
    cases he
    rw [hstore, tallySession_store] at hr
    match id with
    | 0 => exact (Option.some.inj hr).symm
    | 1 => exact (Option.some.inj hr).symm
    | id + 2 => cases hr
  rcases deep_copy_isolated tallySession_reachable (by decide) hcopy hturns (by
    intro x _ routine hr
    rw [htally x.1 routine hr]
    exact .inr (Library.solitary_tally x.2)) with ⟨hkept, -, hcopied, -⟩
  rw [hcopy]
  exact ⟨hkept, hcopied⟩

end Session

end TextTemplate
