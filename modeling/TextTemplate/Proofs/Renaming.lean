import TextTemplate.Proofs.Caching
import TextTemplate.Proofs.OwnState

/-!
# Renamed instances

An expression and a copy of it that drives other instances have the same value, as long as these
are in the same states and no execution looks at what its instance has in common with others.

* `Machine.Evolves` and `Machine.development_get?` say what evaluations leave as it is.
* `Expression.rename` is an expression with other instances at its calls, and `Machine.Mirrors`
  says that these are in the states of the original ones.
* `Expression.evaluate_mirrors`: then it has the value of the original, and the states stay the
  same.
-/

namespace TextTemplate

universe u v w

/-! ## What evaluations leave as it is -/

/-- The routine of an instance. -/
def Store.routine? (store : Store) (id : InstanceId) : Option Routine :=
  (store.get? id).map Instance.routine

namespace Machine

variable {m m' m'' : Machine}

theorem execute_of_none {id : InstanceId} (h : m.store.get? id = none) (scene : Scene)
    (arguments : List String) : m.execute scene id arguments = (.ok "", m) := by
  simp only [execute, h]

/-- Executing an instance that exists is an execution. -/
theorem executions_execute {id : InstanceId} {inst : Instance} (h : m.store.get? id = some inst)
    (scene : Scene) (arguments : List String) :
    (m.execute scene id arguments).2.executions = m.executions ++ [(id, arguments)] := by
  simp only [execute, h, executions_append, executions_eventsOf]
  rfl

/-- An execution changes the instance that is executed and no other one. -/
theorem get?_execute_of_ne {id other : InstanceId} (h : id ≠ other) (scene : Scene)
    (arguments : List String) :
    (m.execute scene id arguments).2.store.get? other = m.store.get? other := by
  unfold execute
  split
  · rfl
  · exact m.store.get?_update_of_ne h _ _

/-- Machines in which the executions of the first one have happened and more can have. -/
structure Evolves (m m' : Machine) : Prop where
  routines : ∀ id, m'.store.routine? id = m.store.routine? id
  executions : m.executions <+: m'.executions

namespace Evolves

theorem refl (m : Machine) : m.Evolves m := ⟨fun _ => rfl, List.prefix_rfl⟩

theorem trans (h : m.Evolves m') (h' : m'.Evolves m'') : m.Evolves m'' :=
  ⟨fun id => (h'.routines id).trans (h.routines id), h.executions.trans h'.executions⟩

theorem log (m : Machine) (record : LogRecord) : m.Evolves (m.log record) :=
  ⟨fun _ => rfl, by simp [Machine.log]⟩

theorem execute (m : Machine) (scene : Scene) (id : InstanceId) (arguments : List String) :
    m.Evolves (m.execute scene id arguments).2 := by
  cases hi : m.store.get? id with
  | none =>
    rw [execute_of_none hi]
    exact refl m
  | some inst =>
    constructor
    · intro other
      by_cases ho : id = other
      · subst ho
        simp [Machine.execute, hi, Store.routine?, append, m.store.get?_update_self hi]
      · rw [Store.routine?, get?_execute_of_ne ho, Store.routine?]
    · rw [executions_execute hi]
      exact List.prefix_append _ _

end Evolves

theorem development_evolves (scene : Scene) : Development Evolves scene fun _ => True where
  refl := .refl
  trans := .trans
  log := .log
  execute m id arguments _ := .execute m scene id arguments

/-- Instances that are not driven stay in their states. -/
theorem development_get? (scene : Scene) (id : InstanceId) :
    Development (fun m m' => m'.store.get? id = m.store.get? id) scene (· ≠ id) where
  refl _ := rfl
  trans h h' := h'.trans h
  log _ _ := rfl
  execute _ _ arguments h := get?_execute_of_ne h scene arguments

end Machine

/-! ## Renaming -/

namespace Expression

section Rename

variable {α : Type u} {β : Type v} {σ : Type w} (ρ : α → β)

/-- The same expression with something else at its calls. -/
def rename (e : Expression α) : Expression β := (e.relabel (fun a (_ : Unit) => (ρ a, ())) ()).1

theorem relabelAll_rename (as : List α) :
    (relabelAll (fun a (_ : Unit) => (ρ a, ())) as ()).1 = as.map ρ := by
  induction as with
  | nil => rfl
  | cons a as ih => rw [relabelAll, List.map_cons, ← ih]

theorem callees_rename (e : Expression α) : (e.rename ρ).callees = e.callees.map ρ := by
  rw [rename, callees_relabel, relabelAll_rename]

theorem length_relabelAll (f : α → σ → β × σ) (as : List α) (s : σ) :
    (relabelAll f as s).1.length = as.length := by
  induction as generalizing s with
  | nil => rfl
  | cons a as ih => rw [relabelAll, List.length_cons, List.length_cons, ih]

/-- A copy whose calls are replaced in order by what others are renamed to is that other one. -/
theorem relabelAll_append_eq_map {f : α → σ → β × σ} {as bs : List α} {s : σ}
    (h : (relabelAll f (as ++ bs) s).1 = (as ++ bs).map ρ) :
    (relabelAll f as s).1 = as.map ρ ∧
      (relabelAll f bs (relabelAll f as s).2).1 = bs.map ρ := by
  rw [relabelAll_append, List.map_append] at h
  exact List.append_inj h (by rw [length_relabelAll, List.length_map])

mutual

/-- A copy is a renaming if it replaces what stands at the calls in the same way. -/
theorem relabel_eq_rename {f : α → σ → β × σ} : (e : Expression α) → {s : σ} →
    (relabelAll f e.callees s).1 = e.callees.map ρ → (e.relabel f s).1 = e.rename ρ
  | ⟨_, pieces, _⟩, _, h => by
    simp only [rename, relabel, relabelPieces_eq_rename pieces h]

theorem relabelPieces_eq_rename {f : α → σ → β × σ} : (pieces : List (Piece α)) → {s : σ} →
    (relabelAll f (calleesOfPieces pieces) s).1 = (calleesOfPieces pieces).map ρ →
    (relabelPieces f pieces s).1 = (relabelPieces (fun a (_ : Unit) => (ρ a, ())) pieces ()).1
  | [], _, _ => rfl
  | .text _ :: pieces, _, h => by
    simp only [relabelPieces, relabelPieces_eq_rename pieces h]
  | .var _ _ :: pieces, _, h => by
    simp only [relabelPieces, relabelPieces_eq_rename pieces h]
  | .call key callee arguments position :: pieces, s, h => by
    -- The instances of the arguments come first, then that of the call, then those of the rest.
    rcases relabelAll_append_eq_map ρ h with ⟨ha, hp⟩
    have hs := congrArg Prod.snd (relabelArguments_all f arguments s)
    simp only [relabelAll, List.map_cons, List.cons.injEq, ← hs] at hp
    simp only [relabelPieces, relabelArguments_eq_rename arguments ha, hp.1,
      relabelPieces_eq_rename pieces hp.2]

theorem relabelArguments_eq_rename {f : α → σ → β × σ} : (es : List (Expression α)) → {s : σ} →
    (relabelAll f (calleesOfArguments es) s).1 = (calleesOfArguments es).map ρ →
    (relabelArguments f es s).1 =
      (relabelArguments (fun a (_ : Unit) => (ρ a, ())) es ()).1
  | [], _, _ => rfl
  | e :: es, s, h => by
    rcases relabelAll_append_eq_map ρ h with ⟨he, hes⟩
    rw [← relabel_state] at hes
    have hhead := relabel_eq_rename e he
    simp only [relabelArguments, relabelArguments_eq_rename es hes, hhead]
    rfl

end

/-- Caches aside, to rename is to rename without caches. -/
theorem rename_uncached (e : Expression α) : e.uncached.rename ρ = (e.rename ρ).uncached :=
  congrArg Prod.fst (relabel_uncached _ e ())

theorem rename_id (e : Expression α) : e.uncached.rename id = e.uncached :=
  (rename_uncached id e).trans (relabel_same_uncached e)

end Rename

end Expression

/-! ## Mirrors -/

namespace Machine

/-- Since `m₀`, all executions have been solitary. -/
def Quiet (m₀ m : Machine) : Prop :=
  ∀ x ∈ m.executions.drop m₀.executions.length, ∀ routine,
    m₀.store.routine? x.1 = some routine → routine.Solitary x.2

theorem Quiet.of_evolves {m₀ m m' : Machine} (h : m₀.Quiet m') (he : m.Evolves m') :
    m₀.Quiet m := by
  intro x hx
  rcases he.executions with ⟨later, hl⟩
  apply h x
  rw [← hl, List.drop_append]
  exact List.mem_append_left _ hx

theorem Quiet.of_alike {m₀ m m' : Machine} (h : m₀.Quiet m) (ha : m.Alike m') : m₀.Quiet m' := by
  unfold Quiet
  rw [← ha.executions]
  exact h

/-- The machine `m`, which has evolved from `m₀`, has the renamed instances in the states in which
`m'` has the original ones. -/
structure Mirrors (m₀ : Machine) (ρ : InstanceId → InstanceId) (ids : List InstanceId)
    (m m' : Machine) : Prop where
  base : m₀.Evolves m
  states : ∀ id ∈ ids, m.store.get? (ρ id) = m'.store.get? id

namespace Mirrors

variable {m₀ m m' : Machine} {ρ : InstanceId → InstanceId} {ids : List InstanceId}

theorem of_alike {n n' : Machine} (h : Mirrors m₀ ρ ids n n') (ha : m.Alike n)
    (ha' : m'.Alike n') : Mirrors m₀ ρ ids m m' := by
  refine ⟨⟨?_, ?_⟩, ?_⟩
  · rw [ha.store]
    exact h.base.routines
  · rw [ha.executions]
    exact h.base.executions
  · rw [ha.store, ha'.store]
    exact h.states

theorem log (h : Mirrors m₀ ρ ids m m') (record record' : LogRecord) :
    Mirrors m₀ ρ ids (m.log record) (m'.log record') :=
  ⟨h.base.trans (.log m record), h.states⟩

/-- A solitary execution of a renamed instance gives what one of the original gives, and leaves
them in the same state. -/
theorem execute (h : Mirrors m₀ ρ ids m m') (hρ : ∀ i ∈ ids, ∀ j ∈ ids, ρ i = ρ j → i = j)
    {id : InstanceId} (hid : id ∈ ids) (scene : Scene) (arguments : List String)
    (hq : m₀.Quiet (m.execute scene (ρ id) arguments).2) :
    (m.execute scene (ρ id) arguments).1 = (m'.execute scene id arguments).1 ∧
      Mirrors m₀ ρ ids (m.execute scene (ρ id) arguments).2
        (m'.execute scene id arguments).2 := by
  have hbase := h.base.trans (.execute m scene (ρ id) arguments)
  cases hi : m.store.get? (ρ id) with
  | none =>
    have hi' : m'.store.get? id = none := (h.states id hid) ▸ hi
    rw [execute_of_none hi, execute_of_none hi']
    exact ⟨rfl, h⟩
  | some inst =>
    have hi' : m'.store.get? id = some inst := (h.states id hid) ▸ hi
    have hroutine : m₀.store.routine? (ρ id) = some inst.routine := by
      rw [← h.base.routines, Store.routine?, hi, Option.map_some]
    have hexecuted : (ρ id, arguments) ∈
        (m.execute scene (ρ id) arguments).2.executions.drop m₀.executions.length := by
      rw [executions_execute hi, List.drop_append_of_le_length h.base.executions.length_le]
      exact List.mem_append_right _ (List.mem_singleton_self _)
    rcases hq _ hexecuted inst.routine hroutine scene (m.store.shared inst.family)
      (m'.store.shared inst.family) m.entropy m'.entropy inst.state with ⟨hresult, hstate⟩
    refine ⟨?_, hbase, fun j hj => ?_⟩
    · simp only [Machine.execute, hi, hi']
      exact hresult
    · -- The instance that is executed is left in the state of its original, and no other one changes.
      by_cases hij : id = j
      · subst hij
        simp only [Machine.execute, hi, hi', append, m.store.get?_update_self hi,
          m'.store.get?_update_self hi', hstate]
      · have hne : ρ id ≠ ρ j := fun heq => hij (hρ id hid j hj heq)
        rw [get?_execute_of_ne hne, get?_execute_of_ne hij]
        exact h.states j hj

theorem contribution (h : Mirrors m₀ ρ ids m m') (key : String) (position : Nat)
    (result : Except InvocationError String) :
    (contribution key position result m).1 = (contribution key position result m').1 ∧
      Mirrors m₀ ρ ids (TextTemplate.contribution key position result m).2
        (TextTemplate.contribution key position result m').2 := by
  cases result with
  | ok text => exact ⟨rfl, h⟩
  | error e => exact ⟨rfl, h.log _ _⟩

end Mirrors

end Machine

namespace Expression

variable {m₀ : Machine} {ρ : InstanceId → InstanceId} {ids : List InstanceId}

mutual

/-- A renamed expression has the value of the original in a machine that mirrors the other. -/
theorem evaluate_mirrors (hρ : ∀ i ∈ ids, ∀ j ∈ ids, ρ i = ρ j → i = j) (scene : Scene) :
    (e : LiveExpression) → {m m' : Machine} → (∀ id ∈ e.callees, id ∈ ids) →
    m₀.Mirrors ρ ids m m' → m₀.Quiet ((e.uncached.rename ρ).evaluate scene m).2.2 →
    ((e.uncached.rename ρ).evaluate scene m).1 = (e.uncached.evaluate scene m').1 ∧
      m₀.Mirrors ρ ids ((e.uncached.rename ρ).evaluate scene m).2.2
        (e.uncached.evaluate scene m').2.2
  | ⟨raw, pieces, cache⟩, m, m', hids, h, hq => by
    simp only [uncached, rename, relabel, Cache.vacate, evaluate_disabled] at hq ⊢
    exact evaluatePieces_mirrors hρ scene pieces hids h hq

theorem evaluatePieces_mirrors (hρ : ∀ i ∈ ids, ∀ j ∈ ids, ρ i = ρ j → i = j) (scene : Scene) :
    (pieces : List (Piece InstanceId)) → {m m' : Machine} →
    (∀ id ∈ calleesOfPieces pieces, id ∈ ids) → m₀.Mirrors ρ ids m m' →
    let copy := (relabelPieces (fun id (_ : Unit) => (ρ id, ())) (uncachedPieces pieces) ()).1
    m₀.Quiet (evaluatePieces scene copy m).2.2 →
    (evaluatePieces scene copy m).1 = (evaluatePieces scene (uncachedPieces pieces) m').1 ∧
      m₀.Mirrors ρ ids (evaluatePieces scene copy m).2.2
        (evaluatePieces scene (uncachedPieces pieces) m').2.2
  | [], _, _, _, h, _ => ⟨rfl, h⟩
  | .text content :: pieces, m, m', hids, h, hq => by
    rcases evaluatePieces_mirrors hρ scene pieces hids h hq with ⟨ht, hm⟩
    simp only [uncachedPieces, Piece.uncached, relabelPieces, evaluatePieces, ht, true_and]
    exact hm
  | .var name position :: pieces, m, m', hids, h, hq => by
    rcases evaluatePieces_mirrors hρ scene pieces hids h hq with ⟨ht, hm⟩
    simp only [uncachedPieces, Piece.uncached, relabelPieces, evaluatePieces, ht, true_and]
    exact hm
  | .call key callee arguments position :: pieces, m, m', hids, h, hq => by
    simp only [calleesOfPieces, List.mem_append, List.mem_cons] at hids
    have evolves := Machine.development_evolves scene
    simp only [uncachedPieces, Piece.uncached, relabelPieces, evaluatePieces] at hq ⊢
    -- What is quiet up to the end is quiet up to the report, the execution and the arguments.
    have hq₃ := hq.of_evolves (evaluatePieces_develops evolves _ _ fun _ _ => trivial)
    have hq₂ := hq₃.of_evolves (evolves.contribution key position _ _)
    have hq₁ := hq₂.of_evolves (.execute _ scene _ _)
    rcases evaluateArguments_mirrors hρ scene arguments (fun id hm => hids id (.inl hm)) h hq₁
      with ⟨hvs, hargs⟩
    rw [← hvs]
    rcases hargs.execute hρ (hids callee (.inr (.inl rfl))) scene _ hq₂ with ⟨hresult, hcall⟩
    rw [← hresult]
    rcases hcall.contribution key position _ with ⟨hvalue, hreport⟩
    rw [← hvalue]
    rcases evaluatePieces_mirrors hρ scene pieces (fun id hm => hids id (.inr (.inr hm))) hreport hq
      with ⟨htext, hpieces⟩
    rw [← htext]
    exact ⟨rfl, hpieces⟩

theorem evaluateArguments_mirrors (hρ : ∀ i ∈ ids, ∀ j ∈ ids, ρ i = ρ j → i = j)
    (scene : Scene) : (es : List LiveExpression) → {m m' : Machine} →
    (∀ id ∈ calleesOfArguments es, id ∈ ids) → m₀.Mirrors ρ ids m m' →
    let copy := (relabelArguments (fun id (_ : Unit) => (ρ id, ())) (uncachedArguments es) ()).1
    m₀.Quiet (evaluateArguments scene copy m).2.2 →
    (evaluateArguments scene copy m).1 = (evaluateArguments scene (uncachedArguments es) m').1 ∧
      m₀.Mirrors ρ ids (evaluateArguments scene copy m).2.2
        (evaluateArguments scene (uncachedArguments es) m').2.2
  | [], _, _, _, h, _ => ⟨rfl, h⟩
  | e :: es, m, m', hids, h, hq => by
    simp only [calleesOfArguments, List.mem_append] at hids
    simp only [uncachedArguments, relabelArguments, evaluateArguments] at hq ⊢
    have hq₁ := hq.of_evolves (evaluateArguments_develops (Machine.development_evolves scene) _ _
      fun _ _ => trivial)
    rcases evaluate_mirrors hρ scene e (fun id hm => hids id (.inl hm)) h hq₁ with ⟨ht, he⟩
    rcases evaluateArguments_mirrors hρ scene es (fun id hm => hids id (.inr hm)) he hq
      with ⟨hv, hm⟩
    exact ⟨by rw [← ht, ← hv]; rfl, hm⟩

end

end Expression

end TextTemplate
