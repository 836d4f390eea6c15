import TextTemplate.Proofs.Caches
import TextTemplate.Proofs.CachingFlag

/-!
# Caching cannot be observed

Two sessions that take the same steps, one with caching and one without, tell the same, execute
the same and end with the same instances.

* `Machine.Alike` machines differ only in the notes of their traces that texts are remembered.
* `evaluate_alike`: trees that are the same caches aside have the same value, in alike machines,
  as long as their caches are sound.
* `Session.Alike` is the simulation relation, kept by every step (`Session.Alike.perform`), and
  `Session.run_withCaching` is what follows for runs.
-/

namespace TextTemplate

/-! ## Alike machines -/

namespace Machine

/-- The machines differ only in the notes that texts begin to be remembered. -/
structure Alike (m m' : Machine) : Prop where
  store : m.store = m'.store
  entropy : m.entropy = m'.entropy
  history : m.history = m'.history

/-- The executions are not among the notes. -/
theorem executions_eq (m : Machine) : m.executions = m.history.filterMap Event.execution? := by
  unfold executions history
  rw [List.filterMap_filter]
  congr 1
  funext event
  cases event with
  | executed | fileRead => rfl
  | logged record => simp [Event.execution?]

namespace Alike

variable {m m' m'' : Machine}

theorem refl (m : Machine) : m.Alike m := ⟨rfl, rfl, rfl⟩

theorem symm (h : m.Alike m') : m'.Alike m :=
  ⟨h.store.symm, h.entropy.symm, h.history.symm⟩

theorem trans (h : m.Alike m') (h' : m'.Alike m'') : m.Alike m'' :=
  ⟨h.store.trans h'.store, h.entropy.trans h'.entropy, h.history.trans h'.history⟩

theorem executions (h : m.Alike m') : m.executions = m'.executions := by
  rw [executions_eq, h.history, executions_eq]

theorem append (h : m.Alike m') (events : List Event) :
    (m.append events).Alike (m'.append events) :=
  ⟨h.store, h.entropy, by rw [history_append, h.history, history_append]⟩

theorem withStore (h : m.Alike m') (store : Store) :
    Alike { m with store } { m' with store } :=
  ⟨rfl, h.entropy, h.history⟩

/-- Executions in alike machines have the same result. -/
theorem execute (h : m.Alike m') (scene : Scene) (id : InstanceId) (arguments : List String) :
    (m.execute scene id arguments).1 = (m'.execute scene id arguments).1 ∧
      (m.execute scene id arguments).2.Alike (m'.execute scene id arguments).2 := by
  rcases m with ⟨store, entropy, trace⟩
  rcases m' with ⟨store', entropy', trace'⟩
  rcases h with ⟨rfl, rfl, ht⟩
  cases hi : store.get? id with
  | none =>
    simp only [Machine.execute, hi, true_and]
    exact ⟨rfl, rfl, ht⟩
  | some inst =>
    simp only [Machine.execute, hi, true_and]
    refine append ?_ _
    exact ⟨rfl, rfl, ht⟩

theorem contribution (h : m.Alike m') (key : String) (position : Nat)
    (result : Except InvocationError String) :
    (contribution key position result m).1 = (contribution key position result m').1 ∧
      (TextTemplate.contribution key position result m).2.Alike
        (TextTemplate.contribution key position result m').2 := by
  cases result with
  | ok text => exact ⟨rfl, h⟩
  | error e => exact ⟨rfl, h.append _⟩

end Alike

/-- To remember a text is not noticed. -/
theorem alike_remember (raw : String) (pieces : List (Piece InstanceId)) (cache : Cache)
    (text : String) (m : Machine) : (remember raw pieces cache text m).2.Alike m := by
  unfold remember
  split
  · exact ⟨rfl, rfl, history_log_cachingRecord m raw⟩
  · exact .refl m

end Machine

/-! ## Evaluations of the same tree -/

namespace Expression

theorem plainText_uncachedPieces {α : Type u} (pieces : List (Piece α)) :
    plainText (uncachedPieces pieces) = plainText pieces := by
  induction pieces with
  | nil => rfl
  | cons piece pieces ih =>
    cases piece <;> simp [uncachedPieces, Piece.uncached, plainText, ih]

/-- An expression that may not remember anything takes the value of its pieces. -/
theorem evaluate_disabled (scene : Scene) (raw : String) (pieces : List (Piece InstanceId))
    (m : Machine) :
    evaluate scene ⟨raw, pieces, .disabled⟩ m =
      ((evaluatePieces scene pieces m).1, ⟨raw, (evaluatePieces scene pieces m).2.1, .disabled⟩,
        (evaluatePieces scene pieces m).2.2) := by
  simp [evaluate, remember, Cache.isEnabled]

mutual

/-- With sound caches, an expression has the value that it has without them. -/
theorem evaluate_uncached_alike (scene : Scene) : (e : LiveExpression) → {m m' : Machine} →
    e.Sound → m.Alike m' →
    (e.evaluate scene m).1 = (e.uncached.evaluate scene m').1 ∧
      (e.evaluate scene m).2.2.Alike (e.uncached.evaluate scene m').2.2
  | ⟨raw, pieces, .filled text⟩, m, m', h, hm => by
    -- What is remembered is the plain text of plain pieces, which have no effect.
    rcases h.1 text rfl with ⟨hp, rfl⟩
    rw [← allPlain_uncachedPieces] at hp
    rw [uncached, evaluate_disabled, evaluatePieces_of_allPlain scene hp,
      plainText_uncachedPieces]
    simp only [evaluate, true_and]
    exact hm
  | ⟨raw, pieces, .disabled⟩, m, m', h, hm => by
    rw [uncached, evaluate_disabled, evaluate_disabled]
    exact evaluatePieces_uncached_alike scene pieces h.2 hm
  | ⟨raw, pieces, .vacant⟩, m, m', h, hm => by
    rcases evaluatePieces_uncached_alike scene pieces h.2 hm with ⟨ht, hp⟩
    rw [uncached, evaluate_disabled, evaluate_of_unfilled scene raw pieces rfl]
    exact ⟨ht, (Machine.alike_remember raw _ _ _ _).trans hp⟩

theorem evaluatePieces_uncached_alike (scene : Scene) : (pieces : List (Piece InstanceId)) →
    {m m' : Machine} → SoundPieces pieces → m.Alike m' →
    (evaluatePieces scene pieces m).1 = (evaluatePieces scene (uncachedPieces pieces) m').1 ∧
      (evaluatePieces scene pieces m).2.2.Alike
        (evaluatePieces scene (uncachedPieces pieces) m').2.2
  | [], _, _, _, hm => ⟨rfl, hm⟩
  | .text _ :: pieces, m, m', h, hm => by
    rcases evaluatePieces_uncached_alike scene pieces h hm with ⟨ht, hp⟩
    simp only [uncachedPieces, Piece.uncached, evaluatePieces, ht, true_and]
    exact hp
  | .var _ _ :: pieces, m, m', h, hm => by
    rcases evaluatePieces_uncached_alike scene pieces h hm with ⟨ht, hp⟩
    simp only [uncachedPieces, Piece.uncached, evaluatePieces, ht, true_and]
    exact hp
  | .call key callee arguments position :: pieces, m, m', h, hm => by
    -- The arguments, the execution and the report of its failure leave alike machines, in this
    -- order, so that the rest starts from alike machines too.
    rcases evaluateArguments_uncached_alike scene arguments h.1 hm with ⟨hv, ha⟩
    simp only [uncachedPieces, Piece.uncached, evaluatePieces, ← hv]
    rcases ha.execute scene callee (evaluateArguments scene arguments m).1 with ⟨hr, he⟩
    rw [← hr]
    rcases he.contribution key position
      ((evaluateArguments scene arguments m).2.2.execute scene callee
        (evaluateArguments scene arguments m).1).1 with ⟨hc, hk⟩
    rw [← hc]
    rcases evaluatePieces_uncached_alike scene pieces h.2 hk with ⟨ht, hp⟩
    rw [← ht]
    exact ⟨rfl, hp⟩

theorem evaluateArguments_uncached_alike (scene : Scene) : (es : List LiveExpression) →
    {m m' : Machine} → SoundArguments es → m.Alike m' →
    (evaluateArguments scene es m).1 = (evaluateArguments scene (uncachedArguments es) m').1 ∧
      (evaluateArguments scene es m).2.2.Alike
        (evaluateArguments scene (uncachedArguments es) m').2.2
  | [], _, _, _, hm => ⟨rfl, hm⟩
  | e :: es, m, m', h, hm => by
    rcases evaluate_uncached_alike scene e h.1 hm with ⟨ht, he⟩
    rcases evaluateArguments_uncached_alike scene es h.2 he with ⟨hv, hs⟩
    simp only [uncachedArguments, evaluateArguments, ht, hv, true_and]
    exact hs

end

/-- Expressions that are the same caches aside have the same value. -/
theorem evaluate_alike (scene : Scene) {e e' : LiveExpression} (h : e.uncached = e'.uncached)
    (he : e.Sound) (he' : e'.Sound) {m m' : Machine} (hm : m.Alike m') :
    (e.evaluate scene m).1 = (e'.evaluate scene m').1 ∧
      (e.evaluate scene m).2.2.Alike (e'.evaluate scene m').2.2 := by
  rcases evaluate_uncached_alike scene e he (.refl m) with ⟨ht, hr⟩
  rcases evaluate_uncached_alike scene e' he' hm.symm with ⟨ht', hr'⟩
  rw [h] at ht hr
  exact ⟨ht.trans ht'.symm, hr.trans hr'.symm⟩

end Expression

/-! ## Sessions with and without caching -/

/-- The same engine, with caching or without. -/
def Engine.withCaching (engine : Engine) (enabled : Bool) : Engine :=
  { engine with config := { engine.config with staticCaching := enabled } }

namespace Session

/-- The same step, where engines are with caching or without. -/
def Action.withCaching (enabled : Bool) : Action → Action
  | .resume engine context world => .resume (engine.withCaching enabled) context world
  | action => action

/-- The engines make the same trees, caches aside. -/
def SameEngine (engine engine' : Engine) : Prop :=
  engine.registry = engine'.registry ∧ engine.config.uncached = engine'.config.uncached

theorem sameEngine_withCaching (engine : Engine) (enabled enabled' : Bool) :
    SameEngine (engine.withCaching enabled) (engine.withCaching enabled') := ⟨rfl, rfl⟩

/-- The sessions are the same apart from caches and the notes about them. -/
structure Alike (s s' : Session) : Prop where
  engine : SameEngine s.engine s'.engine
  scene : s.scene = s'.scene
  machine : s.machine.Alike s'.machine
  names : ∀ name,
    (s.expression? name).map Expression.uncached = (s'.expression? name).map Expression.uncached

namespace Alike

variable {s s' : Session}

/-- Two names have the same meaning, caches aside. -/
theorem found (h : Alike s s') {name : String} {e : LiveExpression}
    (he : s.expression? name = some e) :
    ∃ e', s'.expression? name = some e' ∧ e.uncached = e'.uncached := by
  have hn := h.names name
  rw [he] at hn
  cases he' : s'.expression? name with
  | none => simp [he'] at hn
  | some e' =>
    rw [he'] at hn
    exact ⟨e', rfl, Option.some.inj hn⟩

theorem missing (h : Alike s s') {name : String} (he : s.expression? name = none) :
    s'.expression? name = none := by
  have hn := h.names name
  rw [he] at hn
  cases he' : s'.expression? name with
  | none => rfl
  | some e' => simp [he'] at hn

theorem withMachine (h : Alike s s') {m m' : Machine} (hm : m.Alike m') :
    Alike { s with machine := m } { s' with machine := m' } :=
  ⟨h.engine, h.scene, hm, h.names⟩

theorem bind (h : Alike s s') (name : String) {e e' : LiveExpression}
    (he : e.uncached = e'.uncached) : Alike (s.bind name e) (s'.bind name e') := by
  refine ⟨h.engine, h.scene, h.machine, fun other => ?_⟩
  rw [expression?_bind, expression?_bind]
  by_cases ho : name = other
  · rw [if_pos ho, if_pos ho, Option.map_some, Option.map_some, he]
  · rw [if_neg ho, if_neg ho]
    exact h.names other

theorem drop (h : Alike s s') (name : String) : Alike (s.drop name) (s'.drop name) := by
  refine ⟨h.engine, h.scene, h.machine, fun other => ?_⟩
  rw [expression?_drop, expression?_drop]
  by_cases ho : name = other
  · rw [if_pos ho, if_pos ho]
  · rw [if_neg ho, if_neg ho]
    exact h.names other

/-- The engines of alike sessions parse a text alike. -/
theorem parse (h : Alike s s') (text : String) :
    (parse s.engine.registry s.engine.config text).map Expression.uncached =
      (TextTemplate.parse s'.engine.registry s'.engine.config text).map Expression.uncached := by
  rw [← parse_uncached, ← parse_uncached, h.engine.1, h.engine.2]

/-- A step of alike sessions tells the same, and they stay alike. -/
theorem perform (h : Alike s s') (hs : All (fun _ e => e.Sound) s)
    (hs' : All (fun _ e => e.Sound) s') (action : Action) (enabled enabled' : Bool) :
    (s.perform (action.withCaching enabled)).1 = (s'.perform (action.withCaching enabled')).1 ∧
      Alike (s.perform (action.withCaching enabled)).2
        (s'.perform (action.withCaching enabled')).2 := by
  cases action with
  | compile name text =>
    have hl := h.machine.append [.logged (Engine.compilingRecord text)]
    have hp := h.parse text
    simp only [Action.withCaching]
    cases hr : TextTemplate.parse s.engine.registry s.engine.config text with
    | error e =>
      -- The other session cannot succeed, and it fails for the same reason.
      cases hr' : TextTemplate.parse s'.engine.registry s'.engine.config text with
      | ok parsed' => simp [hr, hr', Except.map] at hp
      | error e' =>
        rw [perform_compile_error s hr, perform_compile_error s' hr']
        simp only [hr, hr', Except.map, Except.error.injEq] at hp
        exact ⟨congrArg Outcome.failed hp, h.withMachine hl⟩
    | ok parsed =>
      cases hr' : TextTemplate.parse s'.engine.registry s'.engine.config text with
      | error e' => simp [hr, hr', Except.map] at hp
      | ok parsed' =>
        rw [perform_compile_ok s hr, perform_compile_ok s' hr']
        simp only [hr, hr', Except.map, Except.ok.injEq] at hp
        rcases Expression.instantiate_congr hp s.machine.store with ⟨hc, hstore⟩
        rw [← h.machine.store, ← hstore]
        exact ⟨rfl, (h.withMachine (hl.withStore _)).bind name hc⟩
  | bindEmpty name => exact ⟨rfl, h.bind name rfl⟩
  | evaluate name =>
    simp only [Action.withCaching]
    cases he : s.expression? name with
    | none =>
      rw [perform_evaluate_none s he, perform_evaluate_none s' (h.missing he)]
      exact ⟨rfl, h⟩
    | some e =>
      rcases h.found he with ⟨e', he', hu⟩
      rcases Expression.evaluate_alike s.scene hu (hs name e he).2
        (hs' name e' he').2 h.machine with ⟨ht, hm⟩
      rw [perform_evaluate_some s he, perform_evaluate_some s' he', ← h.scene, ht]
      refine ⟨rfl, (h.withMachine hm).bind name ?_⟩
      rw [Expression.evaluate_uncached, Expression.evaluate_uncached, hu]
  | duplicate source target deep =>
    simp only [Action.withCaching]
    cases he : s.expression? source with
    | none =>
      rw [perform_duplicate_none s deep he, perform_duplicate_none s' deep (h.missing he)]
      exact ⟨rfl, h⟩
    | some e =>
      rcases h.found he with ⟨e', he', hu⟩
      rcases Expression.duplicate_congr hu deep s.machine.store with ⟨hc, hstore⟩
      rw [perform_duplicate_some s deep he, perform_duplicate_some s' deep he', ← h.machine.store,
        ← hstore]
      exact ⟨rfl, (h.withMachine (h.machine.withStore _)).bind target hc⟩
  | drop name => exact ⟨rfl, h.drop name⟩
  | resume engine context world =>
    exact ⟨rfl, sameEngine_withCaching engine enabled enabled', rfl, h.machine, h.names⟩

/-- Runs of alike sessions tell the same, and they end alike. -/
theorem run (h : Alike s s') (hs : All (fun _ e => e.Sound) s)
    (hs' : All (fun _ e => e.Sound) s') (actions : List Action) (enabled enabled' : Bool) :
    (s.run (actions.map (·.withCaching enabled))).1 =
        (s'.run (actions.map (·.withCaching enabled'))).1 ∧
      Alike (s.run (actions.map (·.withCaching enabled))).2
        (s'.run (actions.map (·.withCaching enabled'))).2 := by
  induction actions generalizing s s' with
  | nil => exact ⟨rfl, h⟩
  | cons action actions ih =>
    rcases h.perform hs hs' action enabled enabled' with ⟨ho, hn⟩
    rcases ih hn (stable_sound.step hs (transition _ _))
      (stable_sound.step hs' (transition _ _)) with ⟨hos, hr⟩
    simp only [List.map_cons, Session.run, ho, hos, true_and]
    exact hr

end Alike

/-- Two runs from the same start, through the same steps, one with caching and one without, tell
the same at every step. They execute the same with the same arguments in the same order, draw the
same random words, and end with the same instances. Caches aside, the traces and the live
expressions are the same too. -/
theorem run_withCaching (engine : Engine) (context : Context) (world : World) (machine : Machine)
    (actions : List Action) :
    let on := (start (engine.withCaching true) context world machine).run
      (actions.map (·.withCaching true))
    let off := (start (engine.withCaching false) context world machine).run
      (actions.map (·.withCaching false))
    on.1 = off.1 ∧
      on.2.machine.executions = off.2.machine.executions ∧
      on.2.machine.store = off.2.machine.store ∧
      on.2.machine.entropy = off.2.machine.entropy ∧
      on.2.machine.history = off.2.machine.history ∧
      ∀ name, (on.2.expression? name).map Expression.uncached =
        (off.2.expression? name).map Expression.uncached := by
  have hstart : Alike (start (engine.withCaching true) context world machine)
      (start (engine.withCaching false) context world machine) :=
    ⟨sameEngine_withCaching engine true false, rfl, .refl machine, fun _ => rfl⟩
  rcases hstart.run ((Reachable.start _ _ _ _).all stable_sound)
    ((Reachable.start _ _ _ _).all stable_sound) actions true false with ⟨ho, h⟩
  exact ⟨ho, h.machine.executions, h.machine.store, h.machine.entropy, h.machine.history, h.names⟩

end Session

end TextTemplate
