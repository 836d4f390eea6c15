import TextTemplate.Proofs.Caching

/-!
# Shallow copies act as one

An expression and its shallow copies, and theirs, are one expression: to evaluate any of them is to
evaluate one.

* `Session.Kin` holds of the names of an expression and its copies, whatever else has happened.
* `Session.Familial` steps evaluate members of such a family, and make and drop members.
* `Session.ActsFor`, the simulation relation, says that one expression acts for all members. Steps
  of a family keep it, and `Session.shallow_family` is what follows for runs.
-/

namespace TextTemplate.Session

/-! ## Families -/

/-- The names of an expression and its shallow copies, after a step with an outcome. -/
def Action.kin (family : List String) : Action → Outcome → List String
  | .compile name _, .done => family.filter (· ≠ name)
  | .bindEmpty name, .done => family.filter (· ≠ name)
  | .drop name, .done => family.filter (· ≠ name)
  | .duplicate source target deep, .done =>
    if source ∈ family ∧ deep = false then target :: family else family.filter (· ≠ target)
  | _, _ => family

/-- The names are those of an expression and of copies that were made of it and of each other by
shallow copying. -/
inductive Kin : Session → List String → Prop where
  | alone {s : Session} {name : String} {e : LiveExpression} (h : s.Reachable)
      (found : s.expression? name = some e) : Kin s [name]
  | step {s : Session} {family : List String} (h : Kin s family) (action : Action) :
      Kin (s.perform action).2 (action.kin family (s.perform action).1)

/-- Steps of a family: each evaluates a member, copies one, drops one, or changes what the
evaluations after it see. -/
inductive Familial : List String → List Action → Prop where
  | nil {family : List String} : Familial family []
  | evaluate {family : List String} {name : String} {actions : List Action}
      (member : name ∈ family) (rest : Familial family actions) :
      Familial family (.evaluate name :: actions)
  | duplicate {family : List String} {source target : String} {actions : List Action}
      (member : source ∈ family) (rest : Familial (target :: family) actions) :
      Familial family (.duplicate source target false :: actions)
  | drop {family : List String} {name : String} {actions : List Action}
      (rest : Familial (family.filter (· ≠ name)) actions) :
      Familial family (.drop name :: actions)
  | resume {family : List String} {engine : Engine} {context : Context} {world : World}
      {actions : List Action} (rest : Familial family actions) :
      Familial family (.resume engine context world :: actions)

/-- What is left of a step of a family when there is only one expression with a name. -/
def Action.single (name : String) : Action → Option Action
  | .evaluate _ => some (.evaluate name)
  | .resume engine context world => some (.resume engine context world)
  | _ => none

/-- The text that a step gives. -/
def Outcome.output? : Outcome → Option String
  | .output text => some text
  | _ => none

/-- Whether a step is an evaluation. -/
def Action.isEvaluation : Action → Bool
  | .evaluate _ => true
  | _ => false

/-! ## Members -/

/-- A name is bound to the tree, caches aside, and the texts remembered in it are sound. -/
def Holds (s : Session) (tree : LiveExpression) (name : String) : Prop :=
  ∃ e, s.expression? name = some e ∧ e.Sound ∧ e.uncached = tree

namespace Holds

variable {s s' : Session} {tree : LiveExpression} {name other : String}

theorem of_eq (h : Holds s tree name) (he : s'.expression? name = s.expression? name) :
    Holds s' tree name := by
  rcases h with ⟨e, hf, hs, hu⟩
  exact ⟨e, he.trans hf, hs, hu⟩

/-- A name keeps its tree when another one is bound anew, and when it gets such a tree itself. -/
theorem rebinds (h : Holds s tree name) {bound : Option LiveExpression}
    (hn : Rebinds s s' other bound)
    (hb : name = other → ∃ e, bound = some e ∧ e.Sound ∧ e.uncached = tree) :
    Holds s' tree name := by
  by_cases ho : other = name
  · rcases hb ho.symm with ⟨e, rfl, hs, hu⟩
    exact ⟨e, ho ▸ hn.self, hs, hu⟩
  · exact h.of_eq (hn.of_ne ho)

end Holds

/-- The members of a family keep their tree in every step, and new ones get it. -/
theorem Transition.holds {s s' : Session} {family : List String} {tree : LiveExpression}
    {action : Action} {outcome : Outcome} (ht : Transition s action outcome s')
    (h : ∀ name ∈ family, Holds s tree name) :
    ∀ name ∈ action.kin family outcome, Holds s' tree name := by
  -- A member that is bound to something else is a member no more.
  have hlost : ∀ {other : String} {bound : Option LiveExpression}, Rebinds s s' other bound →
      ∀ name ∈ family.filter (· ≠ other), Holds s' tree name := by
    intro other bound hn name hname
    rcases List.mem_filter.mp hname with ⟨hm, hne⟩
    exact (h name hm).rebinds hn fun heq => absurd heq (by simpa using hne)
  have hkept : Keeps s s' → ∀ name ∈ family, Holds s' tree name :=
    fun kept name hm => (h name hm).of_eq (congrFun kept.1 name)
  cases ht with
  | compiled parse names store => exact hlost names
  | emptied names store => exact hlost names
  | dropped names store => exact hlost names
  | rejected kept => exact hkept kept
  | resumed kept => exact hkept kept
  | absent kept =>
    have hkin : action.kin family .missing = family := by cases action <;> rfl
    rw [hkin]
    exact hkept kept
  | @evaluated other e _ found names store =>
    intro name hm
    refine (h name hm).rebinds names fun heq => ?_
    rcases h name hm with ⟨e', hf, hs, hu⟩
    rw [heq, found] at hf
    cases hf
    exact ⟨_, rfl, Expression.sound_evaluate s.scene e s.machine hs,
      (Expression.evaluate_uncached s.scene e s.machine).trans hu⟩
  | @copied source target deep e _ found names store =>
    -- A shallow copy of a member is a new member, and all other copies are none.
    by_cases hc : source ∈ family ∧ deep = false
    · rcases hc with ⟨hsource, rfl⟩
      rcases h source hsource with ⟨e', hf, hs, hu⟩
      rw [found] at hf
      cases hf
      have hcopy : Holds s' tree target :=
        ⟨_, names.self, Expression.sound_duplicate e false _,
          (Expression.duplicateShallow_uncached e).trans hu⟩
      simp only [Action.kin, hsource, and_self, if_true, List.forall_mem_cons]
      refine ⟨hcopy, fun name hm => ?_⟩
      by_cases heq : target = name
      · exact heq ▸ hcopy
      · exact (h name hm).of_eq (names.of_ne heq)
    · simp only [Action.kin, hc, if_false]
      exact hlost names

/-- The members of a family are the same tree, caches aside. -/
theorem Kin.holds {s : Session} {family : List String} (h : Kin s family) :
    ∃ tree, ∀ name ∈ family, Holds s tree name := by
  induction h with
  | @alone s name e hr found =>
    refine ⟨e.uncached, fun other ho => ?_⟩
    rw [List.mem_singleton.mp ho]
    exact ⟨e, found, (hr.all stable_sound name e found).2, rfl⟩
  | @step s family _ action ih =>
    rcases ih with ⟨tree, hm⟩
    exact ⟨tree, (s.transition action).holds hm⟩

/-! ## One for all -/

/-- One expression acts for the members of a family: their trees are the same, caches aside, and
so is all that evaluations see and change. -/
structure ActsFor (name : String) (family : List String) (tree : LiveExpression)
    (one many : Session) : Prop where
  scene : many.scene = one.scene
  machine : many.machine.Alike one.machine
  members : ∀ member ∈ family, many.Holds tree member
  single : one.Holds tree name

namespace ActsFor

variable {name : String} {family : List String} {tree : LiveExpression} {one many : Session}

/-- To evaluate a member is to evaluate the one. -/
theorem evaluate (h : ActsFor name family tree one many) {member : String}
    (hm : member ∈ family) :
    (∃ text, (many.perform (.evaluate member)).1 = .output text ∧
      (one.perform (.evaluate name)).1 = .output text) ∧
    ActsFor name family tree (one.perform (.evaluate name)).2
      (many.perform (.evaluate member)).2 := by
  have hmembers := (many.transition (.evaluate member)).holds h.members
  have hsingle := (one.transition (.evaluate name)).holds (List.forall_mem_singleton.mpr h.single)
  rcases h.members member hm with ⟨e, hf, hs, hu⟩
  rcases h.single with ⟨e', hf', hs', hu'⟩
  -- Sound caches make no difference, so that equal trees give equal texts.
  rcases Expression.evaluate_alike many.scene (hu.trans hu'.symm) hs hs' h.machine
    with ⟨ht, hmachine⟩
  rw [perform_evaluate_some _ hf] at hmembers ⊢
  rw [perform_evaluate_some _ hf'] at hsingle ⊢
  rw [h.scene] at ht hmachine hmembers ⊢
  refine ⟨⟨_, rfl, congrArg Outcome.output ht.symm⟩, h.scene, hmachine, hmembers, ?_⟩
  exact hsingle name (List.mem_singleton_self name)

/-- To copy a member is to do nothing. -/
theorem duplicate (h : ActsFor name family tree one many) {source : String} (target : String)
    (hm : source ∈ family) :
    (many.perform (.duplicate source target false)).1 = .done ∧
      ActsFor name (target :: family) tree one
        (many.perform (.duplicate source target false)).2 := by
  have hmembers := (many.transition (.duplicate source target false)).holds h.members
  rcases h.members source hm with ⟨e, hf, -, -⟩
  rw [perform_duplicate_some _ false hf] at hmembers ⊢
  simp only [Action.kin, hm, and_self, if_true] at hmembers
  exact ⟨rfl, h.scene, h.machine, hmembers, h.single⟩

/-- To drop a member is to do nothing. -/
theorem drop (h : ActsFor name family tree one many) (member : String) :
    ActsFor name (family.filter (· ≠ member)) tree one (many.perform (.drop member)).2 :=
  ⟨h.scene, h.machine, (many.transition (.drop member)).holds h.members, h.single⟩

theorem resume (h : ActsFor name family tree one many) (engine : Engine) (context : Context)
    (world : World) :
    ActsFor name family tree (one.perform (.resume engine context world)).2
      (many.perform (.resume engine context world)).2 :=
  ⟨rfl, h.machine, h.members, h.single⟩

/-- The steps of a family give the texts that evaluations of the one give, by induction on the
steps. -/
theorem run (h : ActsFor name family tree one many) {actions : List Action}
    (ha : Familial family actions) :
    (many.run actions).1.filterMap Outcome.output? =
        (one.run (actions.filterMap (Action.single name))).1.filterMap Outcome.output? ∧
      ((many.run actions).1.filterMap Outcome.output?).length =
        actions.countP Action.isEvaluation ∧
      (many.run actions).2.machine.Alike
        (one.run (actions.filterMap (Action.single name))).2.machine := by
  induction ha generalizing one many with
  | nil => exact ⟨rfl, rfl, h.machine⟩
  | @evaluate family member actions hm _ ih =>
    rcases h.evaluate hm with ⟨⟨text, ht, ht'⟩, hnext⟩
    rcases ih hnext with ⟨hos, hl, hmachine⟩
    simp only [Session.run, List.filterMap_cons, Action.single, ht, ht', Outcome.output?, hos,
      List.length_cons, List.countP_cons, Action.isEvaluation, if_true]
    rw [← hl, hos]
    exact ⟨trivial, rfl, hmachine⟩
  | @duplicate family source target actions hm _ ih =>
    rcases h.duplicate target hm with ⟨ho, hnext⟩
    rcases ih hnext with ⟨hos, hl, hmachine⟩
    simp only [Session.run, List.filterMap_cons, Action.single, ho, Outcome.output?,
      List.countP_cons, Action.isEvaluation, Bool.false_eq_true, if_false, Nat.add_zero]
    exact ⟨hos, hl, hmachine⟩
  | @drop family member actions _ ih =>
    rcases ih (h.drop member) with ⟨hos, hl, hmachine⟩
    exact ⟨hos, hl, hmachine⟩
  | @resume family engine context world actions _ ih =>
    rcases ih (h.resume engine context world) with ⟨hos, hl, hmachine⟩
    exact ⟨hos, hl, hmachine⟩

end ActsFor

/-- In any session, the evaluations of an expression and its shallow copies, in any order, each
with its own context, give the same texts as evaluations of one of them alone would. They execute
the same with the same arguments in the same order, and leave the same instances. -/
theorem shallow_family {s : Session} {family : List String} (h : Kin s family) {name : String}
    (hname : name ∈ family) {actions : List Action} (ha : Familial family actions) :
    let many := s.run actions
    let one := s.run (actions.filterMap (Action.single name))
    many.1.filterMap Outcome.output? = one.1.filterMap Outcome.output? ∧
      (many.1.filterMap Outcome.output?).length = actions.countP Action.isEvaluation ∧
      many.2.machine.executions = one.2.machine.executions ∧
      many.2.machine.store = one.2.machine.store ∧
      many.2.machine.entropy = one.2.machine.entropy ∧
      many.2.machine.history = one.2.machine.history := by
  rcases h.holds with ⟨tree, hm⟩
  have hstart : ActsFor name family tree s s := ⟨rfl, .refl s.machine, hm, hm name hname⟩
  rcases hstart.run ha with ⟨hos, hl, hmachine⟩
  exact ⟨hos, hl, hmachine.executions, hmachine.store, hmachine.entropy, hmachine.history⟩

/-- Copies of copies, made while they are evaluated, and the first one dropped. -/
theorem shallow_family_tally :
    ((tallySession.run [.evaluate "e", .duplicate "e" "f" false, .evaluate "f",
        .duplicate "f" "g" false, .drop "e", .evaluate "g", .evaluate "f"]).1.filterMap
          Outcome.output?) =
      ((tallySession.run [.evaluate "e", .evaluate "e", .evaluate "e", .evaluate "e"]).1.filterMap
          Outcome.output?) := by
  have hkin : Kin tallySession ["e"] := .alone tallySession_reachable tallySession_expression?
  have hfamilial : Familial ["e"] [.evaluate "e", .duplicate "e" "f" false, .evaluate "f",
      .duplicate "f" "g" false, .drop "e", .evaluate "g", .evaluate "f"] :=
    .evaluate (by decide) (.duplicate (by decide) (.evaluate (by decide) (.duplicate (by decide)
      (.drop (.evaluate (by decide) (.evaluate (by decide) .nil))))))
  exact (shallow_family hkin (List.mem_singleton_self "e") hfamilial).1

end TextTemplate.Session
