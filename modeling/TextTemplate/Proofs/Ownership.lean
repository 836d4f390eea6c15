import Mathlib.Logic.Relation
import TextTemplate.Proofs.Instances
import TextTemplate.Proofs.Paths

/-!
# Who drives which instance

Each call of an expression drives an instance of its own, which it shares with nothing but the
same call of shallow copies.

* A `Lineage` is kept beside a run of a session. It numbers all expressions that come into being
  and remembers which are shallow copies of which, those that have been dropped included.
* `Ledger` is the invariant: a plan says, for every expression so far, which instances its calls
  drive. Plans of expressions that are linked by shallow copies are the same, and other plans have
  nothing in common.
* `Session.instances_owned` is what follows for the live expressions after any run.
-/

namespace TextTemplate

open Expression

/-! ## Where expressions come from -/

/-- Which expressions there have been, and which of them are copies that share instances. -/
structure Lineage where
  /-- The number of expressions so far. They are numbered from zero on. -/
  births : Nat := 0
  /-- The numbers of the live expressions, by name. -/
  number? : String → Option Nat := fun _ => none
  /-- The pairs of an expression and a shallow copy of it. -/
  links : List (Nat × Nat) := []

namespace Lineage

/-- An expression comes into being and gets a name. -/
def bear (h : Lineage) (name : String) : Lineage :=
  { h with
    births := h.births + 1
    number? := fun other => if name = other then some h.births else h.number? other }

/-- A shallow copy of an expression comes into being and gets a name. -/
def copy (h : Lineage) (source : Nat) (name : String) : Lineage :=
  { h.bear name with links := (source, h.births) :: h.links }

/-- The expression with a name is dropped. -/
def lose (h : Lineage) (name : String) : Lineage :=
  { h with number? := fun other => if name = other then none else h.number? other }

/-- The lineage after a step with an outcome. -/
def step (h : Lineage) : Session.Action → Session.Outcome → Lineage
  | .compile name _, .done => h.bear name
  | .bindEmpty name, .done => h.bear name
  | .duplicate _ target true, .done => h.bear target
  | .duplicate source target false, .done =>
    match h.number? source with
    | some k => h.copy k target
    | none => h
  | .drop name, .done => h.lose name
  | _, _ => h

/-- The lineage after steps that a session takes. -/
def after (h : Lineage) : Session → List Session.Action → Lineage
  | _, [] => h
  | s, action :: actions =>
    (h.step action (s.perform action).1).after (s.perform action).2 actions

/-- A chain of shallow copies connects two expressions. -/
def Linked (h : Lineage) : Nat → Nat → Prop := Relation.EqvGen fun j k => (j, k) ∈ h.links

end Lineage

/-! ## The invariant -/

/-- The instance that a path in an expression leads to. -/
abbrev Plan := List Nat → Option InstanceId

/-- The plans of all expressions so far, of which the live ones are `s`. -/
structure Ledger (s : Session) (h : Lineage) (plan : Nat → Plan) : Prop where
  known : ∀ {j k}, (j, k) ∈ h.links → j < h.births ∧ k < h.births
  live : ∀ {name e}, s.expression? name = some e →
    ∃ k, h.number? name = some k ∧ k < h.births ∧ e.calleeAt? = plan k ∧ e.callees.Nodup
  exists_instance : ∀ {k path id}, k < h.births → plan k path = some id →
    id < s.machine.store.instances.size
  shared : ∀ {j k}, (j, k) ∈ h.links → plan j = plan k
  apart : ∀ {j k p q id}, j < h.births → k < h.births → plan j p = some id → plan k q = some id →
    h.Linked j k ∧ p = q

/-- The next plan leaves those so far as they are. -/
theorem update_of_lt (plan : Nat → Plan) (next : Plan) {k n : Nat} (h : k < n) :
    Function.update plan n next k = plan k :=
  Function.update_of_ne (Nat.ne_of_lt h) next plan

namespace Ledger

variable {s s' : Session} {h : Lineage} {plan : Nat → Plan}

/-- Linked expressions have the same plan. -/
theorem eq_of_linked (hl : Ledger s h plan) {j k : Nat} (hk : h.Linked j k) : plan j = plan k := by
  induction hk with
  | rel j k hm => exact hl.shared hm
  | refl j => rfl
  | symm j k _ ih => exact ih.symm
  | trans i j k _ _ ih ih' => exact ih.trans ih'

theorem start (engine : Engine) (context : Context) (world : World) (machine : Machine) :
    Ledger (.start engine context world machine) {} fun _ _ => none where
  known hm := by simp at hm
  live he := by simp at he
  exists_instance hk _ := by simp at hk
  shared hm := by simp at hm
  apart hj _ _ _ := by simp at hj

/-- The live expressions drive instances that exist. -/
theorem within (hl : Ledger s h plan) {name : String} {e : LiveExpression}
    (he : s.expression? name = some e) : e.Within s.machine.store.instances.size := by
  rcases hl.live he with ⟨k, -, hk, hp, -⟩
  intro id hm
  rcases mem_callees_iff.mp hm with ⟨path, hpath⟩
  have ha := calleeAt?_eq_some_iff.mpr hpath
  rw [hp] at ha
  exact hl.exists_instance hk ha

theorem keeps (hl : Ledger s h plan) (hk : s.Keeps s') : Ledger s' h plan where
  known := hl.known
  live he := hl.live (hk.1 ▸ he)
  exists_instance := by rw [hk.2]; exact hl.exists_instance
  shared := hl.shared
  apart := hl.apart

theorem lose (hl : Ledger s h plan) {name : String} (hn : s.Rebinds s' name none)
    (hs : s'.machine.store = s.machine.store) : Ledger s' (h.lose name) plan where
  known := hl.known
  live := by
    intro other e he
    by_cases ho : name = other
    · rw [← ho, hn.self] at he
      cases he
    · rw [hn.of_ne ho] at he
      simp only [Lineage.lose, if_neg ho]
      exact hl.live he
  exists_instance := by rw [hs]; exact hl.exists_instance
  shared := hl.shared
  apart := hl.apart

/-- A name goes on with the same tree. -/
theorem rebind (hl : Ledger s h plan) {name : String} {e e' : LiveExpression}
    (he : s.expression? name = some e) (hu : e'.uncached = e.uncached)
    (hn : s.Rebinds s' name (some e'))
    (hs : s'.machine.store.instances.size = s.machine.store.instances.size) :
    Ledger s' h plan where
  known := hl.known
  live := by
    intro other e₁ he₁
    by_cases ho : name = other
    · subst ho
      rcases hl.live he with ⟨k, hk, hb, hp, hd⟩
      cases hn.self.symm.trans he₁
      refine ⟨k, hk, hb, ?_, callees_eq_of_uncached_eq hu ▸ hd⟩
      rw [← hp]
      exact funext (calleeAt?_eq_of_uncached_eq hu)
    · rw [hn.of_ne ho] at he₁
      exact hl.live he₁
  exists_instance := by rw [hs]; exact hl.exists_instance
  shared := hl.shared
  apart := hl.apart

/-- The other live expressions keep their numbers and plans when there is one more. -/
theorem live_update (hl : Ledger s h plan) {name other : String} {e : LiveExpression}
    (he : s.expression? other = some e) (ho : name ≠ other) (next : Plan) :
    ∃ k, (h.bear name).number? other = some k ∧ k < h.births + 1 ∧
      e.calleeAt? = Function.update plan h.births next k ∧ e.callees.Nodup := by
  rcases hl.live he with ⟨k, hk, hb, hp, hd⟩
  refine ⟨k, (if_neg ho).trans hk, Nat.lt_succ_of_lt hb, ?_, hd⟩
  rw [update_of_lt _ _ hb, hp]

/-- Links so far stay between expressions with the same plan when there is one more. -/
theorem shared_update (hl : Ledger s h plan) {j k : Nat} (hm : (j, k) ∈ h.links) (next : Plan) :
    Function.update plan h.births next j = Function.update plan h.births next k := by
  rcases hl.known hm with ⟨hj, hk⟩
  rw [update_of_lt _ _ hj, update_of_lt _ _ hk]
  exact hl.shared hm

/-- A name is bound to a new expression with new instances. -/
theorem bear (hl : Ledger s h plan) {name : String} {e : LiveExpression}
    (hn : s.Rebinds s' name (some e)) (hd : e.callees.Nodup)
    (hnew : ∀ id ∈ e.callees, s.machine.store.instances.size ≤ id ∧
      id < s'.machine.store.instances.size)
    (hs : s.machine.store.instances.size ≤ s'.machine.store.instances.size) :
    Ledger s' (h.bear name) (Function.update plan h.births e.calleeAt?) where
  known hm := by
    rcases hl.known hm with ⟨hj, hk⟩
    exact ⟨Nat.lt_succ_of_lt hj, Nat.lt_succ_of_lt hk⟩
  live := by
    intro other e₁ he₁
    by_cases ho : name = other
    · subst ho
      cases hn.self.symm.trans he₁
      exact ⟨h.births, if_pos rfl, Nat.lt_succ_self _, by rw [Function.update_self], hd⟩
    · rw [hn.of_ne ho] at he₁
      exact hl.live_update he₁ ho _
  exists_instance := by
    intro k path id hk hp
    rcases Nat.lt_succ_iff_lt_or_eq.mp hk with hk | rfl
    · rw [update_of_lt _ _ hk] at hp
      exact Nat.lt_of_lt_of_le (hl.exists_instance hk hp) hs
    · rw [Function.update_self] at hp
      exact (hnew id (calleeAt?_eq_some_iff.mp hp).mem).2
  shared hm := hl.shared_update hm _
  apart := by
    intro j k p q id hj hk hp hq
    -- An instance of the new expression is not one of the instances so far.
    have hfresh : ∀ {k p q}, k < h.births → plan k p = some id → e.calleeAt? q = some id →
        False := by
      intro k p q hk hp hq
      have hlt := hl.exists_instance hk hp
      have hge := (hnew id (calleeAt?_eq_some_iff.mp hq).mem).1
      exact Nat.not_lt.mpr hge hlt
    rcases Nat.lt_succ_iff_lt_or_eq.mp hj with hj | rfl <;>
      rcases Nat.lt_succ_iff_lt_or_eq.mp hk with hk | rfl
    · -- both were there before
      rw [update_of_lt _ _ hj] at hp
      rw [update_of_lt _ _ hk] at hq
      exact hl.apart hj hk hp hq
    · rw [update_of_lt _ _ hj] at hp
      rw [Function.update_self] at hq
      exact (hfresh hj hp hq).elim
    · rw [Function.update_self] at hp
      rw [update_of_lt _ _ hk] at hq
      exact (hfresh hk hq hp).elim
    · -- both are the new one, whose paths lead to different instances
      rw [Function.update_self] at hp hq
      exact ⟨.refl _, (calleeAt?_eq_some_iff.mp hp).injective (calleeAt?_eq_some_iff.mp hq) hd⟩

/-- A name is bound to a new expression with the instances of another one. -/
theorem copy (hl : Ledger s h plan) {source target : String} {e e' : LiveExpression} {k : Nat}
    (he : s.expression? source = some e) (hk : h.number? source = some k)
    (hu : e'.uncached = e.uncached) (hn : s.Rebinds s' target (some e'))
    (hs : s'.machine.store = s.machine.store) :
    Ledger s' (h.copy k target) (Function.update plan h.births (plan k)) := by
  rcases hl.live he with ⟨k₀, hk₀, hb, hp, hd⟩
  obtain rfl : k₀ = k := Option.some.inj (hk₀.symm.trans hk)
  -- Every expression is linked to one that was there before and has the same plan.
  have hold : ∀ {j}, j < h.births + 1 → ∃ j₀, j₀ < h.births ∧
      Function.update plan h.births (plan k₀) j = plan j₀ ∧ (h.copy k₀ target).Linked j j₀ := by
    intro j hj
    rcases Nat.lt_succ_iff_lt_or_eq.mp hj with hj | rfl
    · exact ⟨j, hj, update_of_lt _ _ hj, .refl j⟩
    · exact ⟨k₀, hb, by rw [Function.update_self], .symm _ _ (.rel _ _ (List.mem_cons_self ..))⟩
  have hlinked : ∀ {i j}, h.Linked i j → (h.copy k₀ target).Linked i j := by
    intro i j hij
    exact hij.mono fun _ _ hm => List.mem_cons_of_mem _ hm
  constructor
  · -- known
    intro i j hm
    rcases List.mem_cons.mp hm with hij | hm
    · cases hij
      exact ⟨Nat.lt_succ_of_lt hb, Nat.lt_succ_self _⟩
    · rcases hl.known hm with ⟨hi, hj⟩
      exact ⟨Nat.lt_succ_of_lt hi, Nat.lt_succ_of_lt hj⟩
  · -- live
    intro other e₁ he₁
    by_cases ho : target = other
    · subst ho
      cases hn.self.symm.trans he₁
      refine ⟨h.births, if_pos rfl, Nat.lt_succ_self _, ?_, callees_eq_of_uncached_eq hu ▸ hd⟩
      rw [Function.update_self, ← hp]
      exact funext (calleeAt?_eq_of_uncached_eq hu)
    · rw [hn.of_ne ho] at he₁
      exact hl.live_update he₁ ho _
  · -- exists_instance
    intro j path id hj hpj
    rcases hold hj with ⟨j₀, hj₀, heq, -⟩
    rw [hs]
    exact hl.exists_instance hj₀ (heq ▸ hpj)
  · -- shared
    intro i j hm
    rcases List.mem_cons.mp hm with hij | hm
    · cases hij
      rw [update_of_lt _ _ hb, Function.update_self]
    · exact hl.shared_update hm _
  · -- apart: what is apart for the expressions with the same plans is apart for these
    intro i j p q id hi hj hpi hqj
    rcases hold hi with ⟨i₀, hi₀, heqi, hli⟩
    rcases hold hj with ⟨j₀, hj₀, heqj, hlj⟩
    rw [heqi] at hpi
    rw [heqj] at hqj
    rcases hl.apart hi₀ hj₀ hpi hqj with ⟨hij, hpq⟩
    exact ⟨hli.trans _ _ _ ((hlinked hij).trans _ _ _ (hlj.symm _ _)), hpq⟩

/-- A new expression whose instances are numbered from the end of the store on. -/
theorem bear_range (hl : Ledger s h plan) {name : String} {e : LiveExpression} {count : Nat}
    (hn : s.Rebinds s' name (some e))
    (hc : e.callees = List.range' s.machine.store.instances.size count)
    (hs : s'.machine.store.instances.size = s.machine.store.instances.size + count) :
    Ledger s' (h.bear name) (Function.update plan h.births e.calleeAt?) := by
  refine hl.bear hn (hc ▸ List.nodup_range') ?_ (by omega)
  intro id hm
  rw [hc, List.mem_range'_1] at hm
  exact ⟨hm.1, by rw [hs]; exact hm.2⟩

/-- The invariant is kept by every step. -/
theorem step (hl : Ledger s h plan) {action : Session.Action} {outcome : Session.Outcome}
    (ht : s.Transition action outcome s') :
    ∃ plan', Ledger s' (h.step action outcome) plan' := by
  cases ht with
  | @compiled name text parsed _ parse names store =>
    rcases callees_instantiate parsed s.machine.store with ⟨hc, hs⟩
    exact ⟨_, hl.bear_range names hc (by rw [store, hs])⟩
  | emptied names store =>
    have hc : (Expression.empty : LiveExpression).callees =
        List.range' s.machine.store.instances.size 0 := by
      simp [Expression.empty, callees, calleesOfPieces]
    exact ⟨_, hl.bear_range names hc (by rw [store]; rfl)⟩
  | evaluated found names store =>
    refine ⟨plan, hl.rebind found (evaluate_uncached s.scene _ s.machine) names ?_⟩
    rw [store, evaluate_size]
  | @copied source target deep e _ found names store =>
    cases deep with
    | true =>
      rcases callees_duplicateDeep (hl.within found) with ⟨hc, hs⟩
      exact ⟨_, hl.bear_range names hc (by rw [store]; exact hs)⟩
    | false =>
      rcases hl.live found with ⟨k, hk, -⟩
      have hstep : h.step (.duplicate source target false) .done = h.copy k target := by
        simp [Lineage.step, hk]
      rw [hstep]
      exact ⟨_, hl.copy found hk (duplicateShallow_uncached e) names store⟩
  | dropped names store => exact ⟨plan, hl.lose names store⟩
  | rejected kept | resumed kept => exact ⟨plan, hl.keeps kept⟩
  | absent kept =>
    have hstep : h.step action .missing = h := by
      cases action with
      | duplicate _ _ deep => cases deep <;> rfl
      | _ => rfl
    rw [hstep]
    exact ⟨plan, hl.keeps kept⟩

/-- The invariant is kept by runs. -/
theorem run (hl : Ledger s h plan) (actions : List Session.Action) :
    ∃ plan', Ledger (s.run actions).2 (h.after s actions) plan' := by
  induction actions generalizing s h plan with
  | nil => exact ⟨plan, hl⟩
  | cons action actions ih =>
    rcases hl.step (s.transition action) with ⟨plan', hl'⟩
    exact ih hl'

end Ledger

/-! ## Ownership -/

/-- After any steps from any start, different calls in a live expression drive different
instances, and so do calls in two live expressions, unless a chain of shallow copies connects the
expressions and the calls have the same path. -/
theorem Session.instances_owned (engine : Engine) (context : Context) (world : World)
    (machine : Machine) (actions : List Action) :
    let s := ((start engine context world machine).run actions).2
    let h := ({} : Lineage).after (start engine context world machine) actions
    (∀ name e, s.expression? name = some e →
      e.callees.Nodup ∧ ∀ id ∈ e.callees, ∃! path, e.calleeAt? path = some id) ∧
    ∀ a b e f, s.expression? a = some e → s.expression? b = some f →
      ∃ j k, h.number? a = some j ∧ h.number? b = some k ∧
        ∀ p q id id', e.calleeAt? p = some id → f.calleeAt? q = some id' →
          (id = id' ↔ h.Linked j k ∧ p = q) := by
  rcases (Ledger.start engine context world machine).run actions with ⟨plan, hl⟩
  refine ⟨?_, ?_⟩
  · intro name e he
    rcases hl.live he with ⟨k, -, -, -, hd⟩
    refine ⟨hd, fun id hm => ?_⟩
    rcases mem_callees_iff.mp hm with ⟨path, hp⟩
    exact ⟨path, calleeAt?_eq_some_iff.mpr hp, fun q hq =>
      (calleeAt?_eq_some_iff.mp hq).injective hp hd⟩
  · intro a b e f he hf
    rcases hl.live he with ⟨j, hj, hbj, hpj, -⟩
    rcases hl.live hf with ⟨k, hk, hbk, hpk, -⟩
    refine ⟨j, k, hj, hk, fun p q id id' hp hq => ?_⟩
    rw [hpj] at hp
    rw [hpk] at hq
    constructor
    · rintro rfl
      exact hl.apart hbj hbk hp hq
    · rintro ⟨hjk, rfl⟩
      rw [hl.eq_of_linked hjk, hq] at hp
      exact (Option.some.inj hp).symm

end TextTemplate
