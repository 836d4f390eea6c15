import TextTemplate.Proofs.Layout
import TextTemplate.Proofs.Renaming

/-!
# Variables that an expression names

Evaluation looks at no variables but those that the expression names, unless it calls the routine
that looks up a variable by its argument.

* `Routine.IgnoresVariables` says that a routine does not look at variables, and
  `Library.ignoresVariables_of_mem` that this holds of all routines of the library but one.
* `Expression.evaluate_agreeing`: then scenes that agree on the variables of an expression give it
  the same value, and leave it and the machine in the same state.
* `Session.run_evaluations`: so do sequences of evaluations in such scenes.
-/

namespace TextTemplate

universe u

/-! ## Routines -/

/-- The scenes differ in nothing but variables. -/
structure Scene.SameButVariables (scene scene' : Scene) : Prop where
  world : scene.world = scene'.world
  workerNumber : scene.context.workerNumber = scene'.context.workerNumber
  currentUnit : scene.context.currentUnit = scene'.context.currentUnit
  previousResult : scene.context.previousResult = scene'.context.previousResult

/-- The variables make no difference to the replies of a routine. -/
def Routine.IgnoresVariables (routine : Routine) : Prop :=
  ∀ (scene scene' : Scene), scene.SameButVariables scene' →
    ∀ (arguments : List String) (shared : UInt64) (entropy : Entropy) (state : routine.State),
      routine.run ⟨scene, arguments, shared, entropy⟩ state =
        routine.run ⟨scene', arguments, shared, entropy⟩ state

/-- Only one routine of the library looks at variables. -/
theorem Library.ignoresVariables_of_mem {routine : Routine}
    (h : routine ∈ routines ++ Samples.all) (hv : routine.name ≠ "__V") :
    routine.IgnoresVariables := by
  intro scene scene' hs arguments shared entropy state
  simp only [routines, Samples.all, List.cons_append, List.nil_append, List.mem_cons,
    List.not_mem_nil, or_false] at h
  rcases h with rfl | rfl | rfl | rfl | rfl | rfl | rfl | rfl | rfl | rfl | rfl | rfl | rfl | rfl |
    rfl | rfl | rfl | rfl | rfl | rfl | rfl | rfl | rfl | rfl
  -- There is a case for each routine, in the order of the two lists.
  · simp only [counter, Call.argument, Call.reply]
  · simp only [random, Call.argument, Call.reply, drawn]
  · simp only [randomString, Call.argument, Call.reply, drawn]
  · simp only [uuid, drawn]
  · simp only [time, Routine.stateless, Call.argument, Call.reply, hs.world]
  · simp only [intSum, Routine.ofArguments, Routine.stateless, Call.reply]
  · simp only [changeCase, Routine.stateless, Call.argument, Call.reply]
  · simp only [urlEncode, Routine.stateless, Call.argument, Call.reply]
  · simp only [urlDecode, Routine.stateless, Call.argument, Call.reply]
  · simp only [char, Routine.ofArguments, Routine.stateless, Call.reply]
  · exact absurd rfl hv
  · simp only [logMessage, Call.argument, Call.reply]
  · simp only [threadNumber, Routine.stateless, Call.reply, hs.workerNumber]
  · simp only [stringFromFile, Call.argument, Call.reply, hs.world]
  · simp only [Samples.upper, Routine.stateless, Call.argument, Call.reply]
  · simp only [Samples.fails, Routine.stateless, Call.reply]
  · simp only [Samples.inner, Samples.constant, Routine.stateless, Call.reply]
  · simp only [Samples.outer, Samples.constant, Routine.stateless, Call.reply]
  · simp only [Samples.join, Routine.ofArguments, Routine.stateless, Call.reply]
  · simp only [Samples.pair, Routine.stateless, Call.argument, Call.reply]
  · simp only [Samples.tally, Call.reply]
  · simp only [Samples.flaky, Call.reply]
  · simp only [Samples.unit, Routine.stateless, Call.reply, hs.currentUnit]
  · simp only [Samples.prev, Routine.stateless, Call.reply, hs.previousResult]

/-! ## Variables of a tree -/

section Variables

variable {α : Type u}

/-- The name of a variable, if a piece is one. -/
def Piece.variableName? : Piece α → Option String
  | .text _ => none
  | .var name _ => some name
  | .call _ _ _ _ => none

namespace Expression

/-- The names of the variables of an expression, those in arguments included. -/
def variableNames (e : Expression α) : List String := e.nodes.filterMap Piece.variableName?

mutual

theorem nodes_uncached : (e : Expression α) → e.uncached.nodes = e.nodes.map Piece.uncached
  | ⟨_, pieces, _⟩ => by
    simp only [uncached, nodes, nodesOfPieces_uncached pieces]

theorem nodesOfPieces_uncached : (pieces : List (Piece α)) →
    nodesOfPieces (uncachedPieces pieces) = (nodesOfPieces pieces).map Piece.uncached
  | [] => rfl
  | .text _ :: pieces => by
    simp only [uncachedPieces, Piece.uncached, nodesOfPieces, nodesOfPieces_uncached pieces]
  | .var _ _ :: pieces => by
    simp only [uncachedPieces, Piece.uncached, nodesOfPieces, nodesOfPieces_uncached pieces,
      List.map_cons]
  | .call _ _ arguments _ :: pieces => by
    simp only [uncachedPieces, Piece.uncached, nodesOfPieces, nodesOfArguments_uncached arguments,
      nodesOfPieces_uncached pieces, List.map_cons, List.map_append]

theorem nodesOfArguments_uncached : (es : List (Expression α)) →
    nodesOfArguments (uncachedArguments es) = (nodesOfArguments es).map Piece.uncached
  | [] => rfl
  | e :: es => by
    simp only [uncachedArguments, nodesOfArguments, nodes_uncached e,
      nodesOfArguments_uncached es, List.map_append]

end

theorem variableNames_uncached (e : Expression α) : e.uncached.variableNames = e.variableNames := by
  have hvariable : Piece.variableName? ∘ Piece.uncached = (Piece.variableName? : Piece α → _) := by
    funext piece
    cases piece <;> rfl
  rw [variableNames, nodes_uncached, List.filterMap_map, hvariable, variableNames]

/-- An evaluation does not change which variables there are. -/
theorem variableNames_evaluate (e : LiveExpression) (scene : Scene) (m : Machine) :
    (e.evaluate scene m).2.1.variableNames = e.variableNames := by
  rw [← variableNames_uncached, evaluate_uncached, variableNames_uncached]

end Expression

end Variables

/-! ## Evaluations -/

/-- The instances drive routines that ignore variables. -/
def Machine.IgnoresVariables (m : Machine) (ids : List InstanceId) : Prop :=
  ∀ id ∈ ids, ∀ routine, m.store.routine? id = some routine → routine.IgnoresVariables

theorem Machine.IgnoresVariables.of_evolves {m m' : Machine} {ids : List InstanceId}
    (h : m.IgnoresVariables ids) (he : m.Evolves m') : m'.IgnoresVariables ids := by
  intro id hid routine hr
  rw [he.routines] at hr
  exact h id hid routine hr

/-- Scenes that differ in nothing but variables execute an instance alike. -/
theorem Machine.execute_agreeing {scene scene' : Scene} (hs : scene.SameButVariables scene')
    {m : Machine} {id : InstanceId}
    (h : ∀ routine, m.store.routine? id = some routine → routine.IgnoresVariables)
    (arguments : List String) : m.execute scene id arguments = m.execute scene' id arguments := by
  cases hi : m.store.get? id with
  | none => rw [execute_of_none hi, execute_of_none hi]
  | some inst =>
    have hroutine : inst.routine.IgnoresVariables := by
      apply h
      rw [Store.routine?, hi, Option.map_some]
    have hreply := hroutine scene scene' hs arguments (m.store.shared inst.family) m.entropy
      inst.state
    simp only [execute, hi, hreply]

namespace Expression

section Agreeing

variable {scene scene' : Scene}

-- The induction is on the tree. Instances keep their routines while those before them are driven.
mutual

theorem evaluate_agreeing (hs : scene.SameButVariables scene') : (e : LiveExpression) →
    (m : Machine) → m.IgnoresVariables e.callees →
    (∀ name ∈ e.variableNames, scene.context.lookup name = scene'.context.lookup name) →
    e.evaluate scene m = e.evaluate scene' m
  | ⟨_, _, .filled _⟩, _, _, _ => by
    simp only [evaluate]
  | ⟨_, pieces, .vacant⟩, m, hm, hv => by
    simp only [evaluate, evaluatePieces_agreeing hs pieces m hm hv]
  | ⟨_, pieces, .disabled⟩, m, hm, hv => by
    simp only [evaluate, evaluatePieces_agreeing hs pieces m hm hv]

theorem evaluatePieces_agreeing (hs : scene.SameButVariables scene') :
    (pieces : List (Piece InstanceId)) → (m : Machine) →
    m.IgnoresVariables (calleesOfPieces pieces) →
    (∀ name ∈ (nodesOfPieces pieces).filterMap Piece.variableName?,
      scene.context.lookup name = scene'.context.lookup name) →
    evaluatePieces scene pieces m = evaluatePieces scene' pieces m
  | [], _, _, _ => rfl
  | .text _ :: pieces, m, hm, hv => by
    simp only [evaluatePieces, evaluatePieces_agreeing hs pieces m hm hv]
  | .var name _ :: pieces, m, hm, hv => by
    simp only [nodesOfPieces, List.filterMap_cons, Piece.variableName?, List.forall_mem_cons] at hv
    simp only [evaluatePieces, Context.valueOf, hv.1, evaluatePieces_agreeing hs pieces m hm hv.2]
  | .call key callee arguments position :: pieces, m, hm, hv => by
    simp only [nodesOfPieces, List.filterMap_cons, Piece.variableName?, List.filterMap_append,
      List.forall_mem_append] at hv
    have hcallees : ∀ id, id ∈ calleesOfArguments arguments ∨ id = callee ∨
        id ∈ calleesOfPieces pieces → id ∈ calleesOfPieces
          (.call key callee arguments position :: pieces) := by
      intro id hid
      simpa only [calleesOfPieces, List.mem_append, List.mem_cons] using hid
    have evolves := Machine.development_evolves scene'
    have hargs := evaluateArguments_agreeing hs arguments m
      (fun id hid => hm id (hcallees id (.inl hid))) hv.1
    -- The machine after the arguments, after the execution and after the report.
    have hm₁ := hm.of_evolves (evaluateArguments_develops evolves arguments m fun _ _ => trivial)
    rcases ha : evaluateArguments scene' arguments m with ⟨values, arguments', m₁⟩
    rw [ha] at hargs hm₁
    have hcall := Machine.execute_agreeing hs (hm₁ callee (hcallees callee (.inr (.inl rfl)))) values
    have hm₂ := hm₁.of_evolves (evolves.execute m₁ callee values trivial)
    rcases hx : m₁.execute scene' callee values with ⟨result, m₂⟩
    rw [hx] at hcall hm₂
    have hm₃ := hm₂.of_evolves (evolves.contribution key position result m₂)
    have hpieces := evaluatePieces_agreeing hs pieces (contribution key position result m₂).2
      (fun id hid => hm₃ id (hcallees id (.inr (.inr hid)))) hv.2
    simp only [evaluatePieces, hargs, ha, hcall, hx, hpieces]

theorem evaluateArguments_agreeing (hs : scene.SameButVariables scene') :
    (es : List LiveExpression) → (m : Machine) → m.IgnoresVariables (calleesOfArguments es) →
    (∀ name ∈ (nodesOfArguments es).filterMap Piece.variableName?,
      scene.context.lookup name = scene'.context.lookup name) →
    evaluateArguments scene es m = evaluateArguments scene' es m
  | [], _, _, _ => rfl
  | e :: es, m, hm, hv => by
    simp only [nodesOfArguments, List.filterMap_append, List.forall_mem_append] at hv
    have hfirst := evaluate_agreeing hs e m (fun id hid => hm id (List.mem_append_left _ hid)) hv.1
    have hm₁ := hm.of_evolves
      (evaluate_develops (Machine.development_evolves scene') e m fun _ _ => trivial)
    have hrest := evaluateArguments_agreeing hs es _
      (fun id hid => hm₁ id (List.mem_append_right _ hid)) hv.2
    simp only [evaluateArguments, hfirst, hrest]

end

end Agreeing

/-! ## Expressions over the library -/

/-- The calls of an expression drive routines of the library, and none of them the one that looks up
a variable by its argument. -/
def OverLibrary (e : LiveExpression) (store : Store) : Prop :=
  ∀ id ∈ e.callees, ∀ routine, store.routine? id = some routine →
    routine ∈ Library.routines ++ Library.Samples.all ∧ routine.name ≠ "__V"

/-- Scenes that agree on the variables of an expression and differ in nothing else than other
variables. -/
structure Agrees (e : LiveExpression) (scene scene' : Scene) : Prop where
  same : scene.SameButVariables scene'
  named : ∀ name ∈ e.variableNames, scene.context.lookup name = scene'.context.lookup name

theorem OverLibrary.of_evolves {e : LiveExpression} {m m' : Machine}
    (h : e.OverLibrary m.store) (he : m.Evolves m') : e.OverLibrary m'.store := by
  intro id hid routine hr
  rw [he.routines] at hr
  exact h id hid routine hr

theorem OverLibrary.evaluate {e : LiveExpression} {m : Machine} (h : e.OverLibrary m.store)
    (scene : Scene) : (e.evaluate scene m).2.1.OverLibrary (e.evaluate scene m).2.2.store := by
  have hevolves := evaluate_develops (Machine.development_evolves scene) e m fun _ _ => trivial
  intro id hid
  rw [callees_eq_of_uncached_eq (evaluate_uncached scene e m)] at hid
  exact h.of_evolves hevolves id hid

theorem OverLibrary.evaluate_eq {e : LiveExpression} {m : Machine} (h : e.OverLibrary m.store)
    {scene scene' : Scene} (ha : e.Agrees scene scene') :
    e.evaluate scene m = e.evaluate scene' m := by
  apply evaluate_agreeing ha.same e m _ ha.named
  intro id hid routine hr
  rcases h id hid routine hr with ⟨hm, hv⟩
  exact Library.ignoresVariables_of_mem hm hv

end Expression

/-! ## Sequences of evaluations -/

namespace Session

/-- The steps that evaluate the expressions with these names, each in a scene of its own. -/
def evaluations (engine : Engine) (turns : List (String × Scene)) : List Action :=
  turns.flatMap fun (name, scene) => [.resume engine scene.context scene.world, .evaluate name]

/-- An evaluation of the expression with a name, in either of two scenes. -/
structure Trial where
  name : String
  scene : Scene
  scene' : Scene

/-- The scenes of a trial agree on what the expression names, which is over the library. -/
def Fair (s : Session) (trial : Trial) : Prop :=
  ∀ e, s.expression? trial.name = some e →
    e.OverLibrary s.machine.store ∧ e.Agrees trial.scene trial.scene'

/-- The sessions have the same expressions and act on the same machine. -/
structure SameState (s s' : Session) : Prop where
  expressions : s.expressions = s'.expressions
  machine : s.machine = s'.machine

/-- The session goes on in a scene. -/
def inScene (s : Session) (engine : Engine) (scene : Scene) : Session :=
  { s with engine, context := scene.context, world := scene.world }

variable {s s' : Session} {engine : Engine} {trial : Trial}

/-- Either scene of a fair trial leads to the same output and to the same state. -/
theorem SameState.perform (h : SameState s s') (engine : Engine) (hf : s.Fair trial) :
    ((s.inScene engine trial.scene).perform (.evaluate trial.name)).1 =
        ((s'.inScene engine trial.scene').perform (.evaluate trial.name)).1 ∧
      SameState ((s.inScene engine trial.scene).perform (.evaluate trial.name)).2
        ((s'.inScene engine trial.scene').perform (.evaluate trial.name)).2 := by
  have hexpression : (s'.inScene engine trial.scene').expression? trial.name =
      (s.inScene engine trial.scene).expression? trial.name := by
    simp only [expression?, inScene, h.expressions]
  cases he : (s.inScene engine trial.scene).expression? trial.name with
  | none =>
    rw [perform_evaluate_none _ he, perform_evaluate_none _ (hexpression.trans he)]
    exact ⟨rfl, h.expressions, h.machine⟩
  | some e =>
    rcases hf e he with ⟨hover, hagrees⟩
    rw [perform_evaluate_some _ he, perform_evaluate_some _ (hexpression.trans he)]
    have hvalue : e.evaluate trial.scene s.machine = e.evaluate trial.scene' s'.machine := by
      rw [hover.evaluate_eq hagrees, h.machine]
    have hscene : (s.inScene engine trial.scene).scene = trial.scene := rfl
    have hscene' : (s'.inScene engine trial.scene').scene = trial.scene' := rfl
    rw [hscene, hscene']
    simp only [inScene, hvalue]
    exact ⟨trivial, by simp only [bind, h.expressions], rfl⟩

/-- A trial that is fair stays so when another expression, or the same one, has been evaluated. -/
theorem Fair.perform (hf : s.Fair trial) (scene : Scene) (name : String) :
    ((s.inScene engine scene).perform (.evaluate name)).2.Fair trial := by
  cases hn : (s.inScene engine scene).expression? name with
  | none =>
    rw [perform_evaluate_none _ hn]
    exact hf
  | some e =>
    rw [perform_evaluate_some _ hn]
    have hevolves := Expression.evaluate_develops (Machine.development_evolves scene) e s.machine
      fun _ _ => trivial
    intro e' he'
    rw [expression?_bind] at he'
    by_cases htrial : name = trial.name
    · rw [if_pos htrial] at he'
      cases he'
      rcases hf e (htrial ▸ hn) with ⟨hover, hagrees⟩
      refine ⟨hover.evaluate scene, hagrees.same, ?_⟩
      have hvariables := Expression.variableNames_evaluate e scene s.machine
      intro variableName hm
      exact hagrees.named variableName (hvariables ▸ hm)
    · rw [if_neg htrial] at he'
      rcases hf e' he' with ⟨hover, hagrees⟩
      exact ⟨hover.of_evolves hevolves, hagrees⟩

theorem run_evaluations_cons (s : Session) (engine : Engine) (name : String) (scene : Scene)
    (turns : List (String × Scene)) :
    let next := (s.inScene engine scene).perform (.evaluate name)
    s.run (evaluations engine ((name, scene) :: turns)) =
      (.done :: next.1 :: (next.2.run (evaluations engine turns)).1,
        (next.2.run (evaluations engine turns)).2) := rfl

theorem SameState.run (h : SameState s s') (engine : Engine) {trials : List Trial}
    (hf : ∀ trial ∈ trials, s.Fair trial) :
    (s.run (evaluations engine (trials.map fun t => (t.name, t.scene)))).1 =
        (s'.run (evaluations engine (trials.map fun t => (t.name, t.scene')))).1 ∧
      SameState (s.run (evaluations engine (trials.map fun t => (t.name, t.scene)))).2
        (s'.run (evaluations engine (trials.map fun t => (t.name, t.scene')))).2 := by
  induction trials generalizing s s' with
  | nil => exact ⟨rfl, h⟩
  | cons trial trials ih =>
    rcases List.forall_mem_cons.mp hf with ⟨hfirst, hrest⟩
    rcases h.perform engine hfirst with ⟨houtcome, hnext⟩
    rcases ih hnext fun t ht => (hrest t ht).perform trial.scene trial.name with ⟨houtcomes, hlast⟩
    simp only [List.map_cons, run_evaluations_cons, houtcome, houtcomes, true_and]
    exact hlast

/-- Evaluation depends on no variables but those that an expression names. Take any sequence of
evaluations of expressions over the library and, for each of them, two scenes that differ in nothing
but variables and agree on those that the expression names anywhere in its tree. With either scenes
the sequence gives the same outputs and leaves the same machine, whose trace has all executions with
their arguments, and the same expressions with their caches. -/
theorem run_evaluations (engine : Engine) (s : Session) (trials : List Trial)
    (h : ∀ trial ∈ trials, ∀ e, s.expression? trial.name = some e →
      e.OverLibrary s.machine.store ∧ e.Agrees trial.scene trial.scene') :
    let left := s.run (evaluations engine (trials.map fun t => (t.name, t.scene)))
    let right := s.run (evaluations engine (trials.map fun t => (t.name, t.scene')))
    left.1 = right.1 ∧ left.2.machine = right.2.machine ∧
      left.2.expressions = right.2.expressions := by
  intro left right
  have hsame : SameState s s := ⟨rfl, rfl⟩
  rcases hsame.run engine h with ⟨houtcomes, hlast⟩
  exact ⟨houtcomes, hlast.machine, hlast.expressions⟩

/-! ### A variable that is not named -/

/-- A session with an expression that names one variable. -/
def variableSession : Session :=
  (perform (.start tallyEngine {} ⟨⟨0, 0⟩, 0, fun _ => .error .notFound⟩ { entropy := ⟨0⟩ })
    (.compile "e" "$\x7btally($\x7bv\x7d)\x7d")).2

/-- The variable has a value, and another one may have one. -/
def namedContext : Context := Context.set {} "v" "2"

/-- Two evaluations, with and without the other variable. -/
def variableTrials : List Trial :=
  let world : World := ⟨⟨0, 0⟩, 0, fun _ => .error .notFound⟩
  [⟨"e", ⟨namedContext.set "w" "5", world⟩, ⟨namedContext, world⟩⟩,
    ⟨"e", ⟨namedContext, world⟩, ⟨namedContext.set "w" "", world⟩⟩]

theorem parse_variable : parse tallyEngine.registry tallyEngine.config
    "$\x7btally($\x7bv\x7d)\x7d" =
      .ok ⟨"$\x7btally($\x7bv\x7d)\x7d", [.call "tally" Library.Samples.tally
        [⟨"$\x7bv\x7d", [.var "v" 8], .vacant⟩] 0], .vacant⟩ := rfl

theorem variableSession_expression? : variableSession.expression? "e" =
    some ⟨"$\x7btally($\x7bv\x7d)\x7d",
      [.call "tally" 0 [⟨"$\x7bv\x7d", [.var "v" 8], .vacant⟩] 0], .vacant⟩ := by
  rw [variableSession, perform_compile_ok _ parse_variable, expression?_bind, if_pos rfl]
  rfl

theorem variableSession_store : variableSession.machine.store =
    ⟨#[⟨Library.Samples.tally, (0 : UInt64), 0⟩], #[0]⟩ := by
  rw [variableSession, perform_compile_ok _ parse_variable]
  rfl

theorem run_evaluations_variableTrials :
    (variableSession.expression? "e").isSome = true ∧
      (variableSession.run (evaluations tallyEngine
          (variableTrials.map fun t => (t.name, t.scene)))).1 =
        (variableSession.run (evaluations tallyEngine
          (variableTrials.map fun t => (t.name, t.scene')))).1 := by
  have hother : ∀ value, (namedContext.set "w" value).lookup "v" = namedContext.lookup "v" :=
    fun value => Context.lookup_set_of_ne _ value (by decide)
  have h : ∀ trial ∈ variableTrials, ∀ e, variableSession.expression? trial.name = some e →
      e.OverLibrary variableSession.machine.store ∧ e.Agrees trial.scene trial.scene' := by
    intro trial ht e he
    simp only [variableTrials, List.mem_cons, List.not_mem_nil, or_false] at ht
    have hname : trial.name = "e" := by
      rcases ht with rfl | rfl
      · rfl
      · rfl
    rw [hname, variableSession_expression?] at he
    cases he
    constructor
    · intro id hid routine hr
      have hid₀ : id = 0 := List.mem_singleton.mp hid
      rw [hid₀, variableSession_store] at hr
      cases hr
      exact ⟨by simp [Library.Samples.all], by decide⟩
    · rcases ht with rfl | rfl
      · refine ⟨⟨rfl, rfl, rfl, rfl⟩, fun name hname => ?_⟩
        rw [List.mem_singleton.mp hname]
        exact hother "5"
      · refine ⟨⟨rfl, rfl, rfl, rfl⟩, fun name hname => ?_⟩
        rw [List.mem_singleton.mp hname]
        exact (hother "").symm
  refine ⟨?_, (run_evaluations tallyEngine variableSession variableTrials h).1⟩
  rw [variableSession_expression?]
  rfl

end Session

end TextTemplate
