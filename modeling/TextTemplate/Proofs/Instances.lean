import TextTemplate.Proofs.SessionRuns
import TextTemplate.Proofs.Trees

/-!
# Instances of live expressions

The store only grows. Compiling and deep copies number the calls of the new tree consecutively,
in the order of `callees`, from the end of the store on.

* `callees_instantiate` and `callees_duplicateDeep` say which instances a new tree drives.
* `Session.Stable` is the rule for properties that all live expressions have at all times.
* By that rule, the calls of live expressions drive instances that exist (`Session.Reachable.all`).
-/

namespace TextTemplate

namespace Expression

universe u w

/-! ## Consecutive numbers -/

section Numbers

variable {α : Type u} {σ : Type w} (f : α → σ → InstanceId × σ) (size : σ → Nat) (least : Nat)

/-- Taking a number for `a` gives the size of the state and makes the state larger by one. -/
def Counts (a : α) : Prop :=
  ∀ s, least ≤ size s → (f a s).1 = size s ∧ size (f a s).2 = size s + 1

theorem relabelAll_counts (as : List α) (s : σ) (h : ∀ a ∈ as, Counts f size least a)
    (hs : least ≤ size s) :
    (relabelAll f as s).1 = List.range' (size s) as.length ∧
      size (relabelAll f as s).2 = size s + as.length := by
  induction as generalizing s with
  | nil => exact ⟨rfl, rfl⟩
  | cons a as ih =>
    obtain ⟨ha, hsa⟩ := h a (by simp) s hs
    obtain ⟨hr, hsr⟩ := ih (f a s).2 (fun b hb => h b (List.mem_cons_of_mem a hb)) (by omega)
    simp only [relabelAll, ha, hr, hsa, hsr, List.length_cons]
    refine ⟨?_, by omega⟩
    rw [List.range'_succ]

theorem relabel_counts (e : Expression α) (s : σ) (h : ∀ a ∈ e.callees, Counts f size least a)
    (hs : least ≤ size s) :
    (e.relabel f s).1.callees = List.range' (size s) e.callees.length ∧
      size (e.relabel f s).2 = size s + e.callees.length := by
  rw [callees_relabel, relabel_state]
  exact relabelAll_counts f size least e.callees s h hs

end Numbers

/-- The calls of a compiled expression drive new instances, each its own. -/
theorem callees_instantiate (e : Expression Routine) (store : Store) :
    (e.instantiate store).1.callees = List.range' store.instances.size e.callCount ∧
      (e.instantiate store).2.instances.size = store.instances.size + e.callCount :=
  relabel_counts _ (fun store : Store => store.instances.size) 0 e store
    (fun routine _ store _ => by simp [Store.create]) (Nat.zero_le _)

/-- The calls of an expression drive instances with numbers below `n`. -/
def Within (n : Nat) (e : LiveExpression) : Prop := ∀ id ∈ e.callees, id < n

/-- The calls of a deep copy drive new instances, each its own. -/
theorem callees_duplicateDeep {e : LiveExpression} {store : Store}
    (h : e.Within store.instances.size) :
    (e.duplicateDeep store).1.callees = List.range' store.instances.size e.callCount ∧
      (e.duplicateDeep store).2.instances.size = store.instances.size + e.callCount := by
  refine relabel_counts _ (fun store : Store => store.instances.size) store.instances.size e store
    (fun id hm store' hs => ?_) (Nat.le_refl _)
  have hlt : id < store'.instances.size := Nat.lt_of_lt_of_le (h id hm) hs
  simp [Store.clone, Store.get?, Array.getElem?_eq_getElem hlt]

end Expression

/-! ## What evaluations do to machines -/

/-- A relation between machines that every record of the log, and every execution of some of the
instances, keeps to. -/
structure Machine.Development (R : Machine → Machine → Prop) (scene : Scene)
    (driven : InstanceId → Prop) : Prop where
  refl : ∀ m, R m m
  trans : ∀ {m m' m'' : Machine}, R m m' → R m' m'' → R m m''
  log : ∀ m record, R m (m.log record)
  execute : ∀ m id arguments, driven id → R m (m.execute scene id arguments).2

namespace Machine.Development

variable {R : Machine → Machine → Prop} {scene : Scene} {driven : InstanceId → Prop}

theorem contribution (h : Development R scene driven) (key : String) (position : Nat)
    (result : Except InvocationError String) (m : Machine) :
    R m (contribution key position result m).2 := by
  cases result with
  | ok text => exact h.refl m
  | error e => exact h.log m _

theorem remember (h : Development R scene driven) (raw : String)
    (pieces : List (Piece InstanceId)) (cache : Cache) (text : String) (m : Machine) :
    R m (remember raw pieces cache text m).2 := by
  unfold TextTemplate.remember
  split
  · exact h.log m _
  · exact h.refl m

end Machine.Development

namespace Expression

section Development

variable {R : Machine → Machine → Prop} {scene : Scene} {driven : InstanceId → Prop}

mutual

/-- An evaluation keeps to whatever the executions of its instances keep to. -/
theorem evaluate_develops (h : Machine.Development R scene driven) : (e : LiveExpression) →
    (m : Machine) → (∀ id ∈ e.callees, driven id) → R m (e.evaluate scene m).2.2
  | ⟨_, _, .filled _⟩, m, _ => by
    simp only [evaluate]
    exact h.refl m
  | ⟨_, pieces, .disabled⟩, m, hd => by
    simp only [evaluate]
    exact h.trans (evaluatePieces_develops h pieces m hd) (h.remember _ _ _ _ _)
  | ⟨_, pieces, .vacant⟩, m, hd => by
    simp only [evaluate]
    exact h.trans (evaluatePieces_develops h pieces m hd) (h.remember _ _ _ _ _)

theorem evaluatePieces_develops (h : Machine.Development R scene driven) :
    (pieces : List (Piece InstanceId)) → (m : Machine) →
    (∀ id ∈ calleesOfPieces pieces, driven id) → R m (evaluatePieces scene pieces m).2.2
  | [], m, _ => h.refl m
  | .text _ :: pieces, m, hd => by
    simp only [evaluatePieces]
    exact evaluatePieces_develops h pieces m hd
  | .var _ _ :: pieces, m, hd => by
    simp only [evaluatePieces]
    exact evaluatePieces_develops h pieces m hd
  | .call key callee arguments position :: pieces, m, hd => by
    simp only [calleesOfPieces, List.mem_append, List.mem_cons] at hd
    have hargs := evaluateArguments_develops h arguments m fun id hm => hd id (.inl hm)
    have hcall := h.execute (evaluateArguments scene arguments m).2.2 callee
      (evaluateArguments scene arguments m).1 (hd callee (.inr (.inl rfl)))
    have hreport := h.contribution key position
      ((evaluateArguments scene arguments m).2.2.execute scene callee
        (evaluateArguments scene arguments m).1).1
      ((evaluateArguments scene arguments m).2.2.execute scene callee
        (evaluateArguments scene arguments m).1).2
    simp only [evaluatePieces]
    exact h.trans (h.trans (h.trans hargs hcall) hreport)
      (evaluatePieces_develops h pieces _ fun id hm => hd id (.inr (.inr hm)))

theorem evaluateArguments_develops (h : Machine.Development R scene driven) :
    (es : List LiveExpression) → (m : Machine) →
    (∀ id ∈ calleesOfArguments es, driven id) → R m (evaluateArguments scene es m).2.2
  | [], m, _ => h.refl m
  | e :: es, m, hd => by
    simp only [calleesOfArguments, List.mem_append] at hd
    simp only [evaluateArguments]
    exact h.trans (evaluate_develops h e m fun id hm => hd id (.inl hm))
      (evaluateArguments_develops h es _ fun id hm => hd id (.inr hm))

end

end Development

end Expression

/-! ## The size of the store -/

theorem Machine.execute_size (m : Machine) (scene : Scene) (id : InstanceId)
    (arguments : List String) :
    (m.execute scene id arguments).2.store.instances.size = m.store.instances.size := by
  unfold execute
  split
  · rfl
  · simp [append, Store.update]

theorem Machine.development_size (scene : Scene) :
    Development (fun m m' => m'.store.instances.size = m.store.instances.size) scene
      fun _ => True where
  refl _ := rfl
  trans h h' := h'.trans h
  log _ _ := rfl
  execute m id arguments _ := m.execute_size scene id arguments

theorem contribution_store (key : String) (position : Nat)
    (result : Except InvocationError String) (m : Machine) :
    (contribution key position result m).2.store = m.store := by
  cases result <;> rfl

theorem remember_store (raw : String) (pieces : List (Piece InstanceId)) (cache : Cache)
    (text : String) (m : Machine) : (remember raw pieces cache text m).2.store = m.store := by
  unfold remember
  split <;> rfl

namespace Expression

/-- Evaluations neither create nor remove instances. -/
theorem evaluate_size (scene : Scene) (e : LiveExpression) (m : Machine) :
    (e.evaluate scene m).2.2.store.instances.size = m.store.instances.size :=
  evaluate_develops (Machine.development_size scene) e m fun _ _ => trivial

theorem evaluateArguments_size (scene : Scene) (es : List LiveExpression) (m : Machine) :
    (evaluateArguments scene es m).2.2.store.instances.size = m.store.instances.size :=
  evaluateArguments_develops (Machine.development_size scene) es m fun _ _ => trivial

namespace Within

variable {e : LiveExpression} {store : Store}

theorem mono {n n' : Nat} (h : e.Within n) (hn : n ≤ n') : e.Within n' :=
  fun id hm => Nat.lt_of_lt_of_le (h id hm) hn

theorem empty (n : Nat) : Expression.empty.Within n := by
  intro id hm
  simp [Expression.empty, callees, calleesOfPieces] at hm

theorem instantiate (parsed : Expression Routine) (store : Store) :
    (parsed.instantiate store).1.Within (parsed.instantiate store).2.instances.size := by
  rcases callees_instantiate parsed store with ⟨hc, hs⟩
  intro id hm
  rw [hc, List.mem_range'_1] at hm
  rw [hs]
  exact hm.2

theorem evaluate {m : Machine} (h : e.Within m.store.instances.size) (scene : Scene) :
    (e.evaluate scene m).2.1.Within (e.evaluate scene m).2.2.store.instances.size := by
  intro id hm
  rw [evaluate_size]
  rw [callees_eq_of_uncached_eq (evaluate_uncached scene e m)] at hm
  exact h id hm

theorem size_duplicate (h : e.Within store.instances.size) (deep : Bool) :
    store.instances.size ≤ (e.duplicate deep store).2.instances.size := by
  cases deep with
  | true =>
    have hs := (callees_duplicateDeep h).2
    simp only [Expression.duplicate, if_true]
    omega
  | false => exact Nat.le_refl _

theorem duplicate (h : e.Within store.instances.size) (deep : Bool) :
    (e.duplicate deep store).1.Within (e.duplicate deep store).2.instances.size := by
  cases deep with
  | true =>
    rcases callees_duplicateDeep h with ⟨hc, hs⟩
    intro id hm
    simp only [Expression.duplicate, if_true] at hm ⊢
    rw [hc, List.mem_range'_1] at hm
    rw [hs]
    exact hm.2
  | false =>
    intro id hm
    exact h id (callees_eq_of_uncached_eq (duplicateShallow_uncached e) ▸ hm)

end Within

end Expression

/-! ## Properties of all live expressions -/

namespace Session

/-- A property of live expressions that no step takes away. -/
structure Stable (P : Store → LiveExpression → Prop) : Prop where
  grows : ∀ {store store' : Store} {e : LiveExpression},
    store.instances.size ≤ store'.instances.size → P store e → P store' e
  empty : ∀ store, P store .empty
  instantiate : ∀ (parsed : Expression Routine) (store : Store),
    P (parsed.instantiate store).2 (parsed.instantiate store).1
  evaluate : ∀ {e : LiveExpression} (scene : Scene) (m : Machine), P m.store e →
    P (e.evaluate scene m).2.2.store (e.evaluate scene m).2.1
  duplicate : ∀ {e : LiveExpression} {store : Store} (deep : Bool),
    e.Within store.instances.size → P store e →
    P (e.duplicate deep store).2 (e.duplicate deep store).1

/-- All live expressions of a session have a property, and their instances exist. -/
def All (P : Store → LiveExpression → Prop) (s : Session) : Prop :=
  ∀ name e, s.expression? name = some e →
    e.Within s.machine.store.instances.size ∧ P s.machine.store e

variable {P : Store → LiveExpression → Prop} {s s' : Session}

/-- A name is bound to an expression that has the property, while the store grows. -/
theorem Stable.all_of_rebinds (hP : Stable P) (h : All P s) {name : String}
    {bound : Option LiveExpression} (hn : Rebinds s s' name bound)
    (hs : s.machine.store.instances.size ≤ s'.machine.store.instances.size)
    (hb : ∀ e, bound = some e →
      e.Within s'.machine.store.instances.size ∧ P s'.machine.store e) : All P s' := by
  intro other e he
  by_cases ho : name = other
  · subst ho
    exact hb e (hn.self ▸ he)
  · rcases h other e (hn.of_ne ho ▸ he) with ⟨hw, hp⟩
    exact ⟨hw.mono hs, hP.grows hs hp⟩

theorem Stable.step (hP : Stable P) (h : All P s) {action : Action} {outcome : Outcome}
    (ht : Transition s action outcome s') : All P s' := by
  cases ht with
  | @compiled name text parsed _ parse names store =>
    have hs := (Expression.callees_instantiate parsed s.machine.store).2
    refine hP.all_of_rebinds h names (by rw [store]; omega) ?_
    rintro e ⟨rfl⟩
    rw [store]
    exact ⟨.instantiate parsed _, hP.instantiate parsed _⟩
  | emptied names store =>
    refine hP.all_of_rebinds h names (Nat.le_of_eq (by rw [store])) ?_
    rintro e ⟨rfl⟩
    exact ⟨.empty _, hP.empty _⟩
  | evaluated found names store =>
    rcases h _ _ found with ⟨hw, hp⟩
    refine hP.all_of_rebinds h names (Nat.le_of_eq (by rw [store, Expression.evaluate_size])) ?_
    rintro e ⟨rfl⟩
    rw [store]
    exact ⟨hw.evaluate s.scene, hP.evaluate s.scene s.machine hp⟩
  | @copied source target deep e₀ _ found names store =>
    rcases h _ _ found with ⟨hw, hp⟩
    refine hP.all_of_rebinds h names (by rw [store]; exact hw.size_duplicate deep) ?_
    rintro e ⟨rfl⟩
    rw [store]
    exact ⟨hw.duplicate deep, hP.duplicate deep hw hp⟩
  | dropped names store =>
    refine hP.all_of_rebinds h names (Nat.le_of_eq (by rw [store])) ?_
    rintro e ⟨⟩
  | rejected kept | absent kept | resumed kept =>
    intro name e he
    rw [kept.1] at he
    rw [kept.2]
    exact h name e he

/-- A stable property holds of all live expressions at all times. -/
theorem Reachable.all (hP : Stable P) (h : Reachable s) : All P s := by
  induction h with
  | start engine context world machine =>
    intro name e he
    simp at he
  | step _ action ih => exact hP.step ih (transition _ action)

end Session

end TextTemplate
