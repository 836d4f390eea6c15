import TextTemplate.Proofs.Caches

/-!
# What an evaluation does

The meaning of expressions, without machines and caches, is a relation between an expression, the
executions of its calls and its text. What executions do is a relation between machines.

* `Stands` says which text an expression stands for, given the executions of all its calls in
  order, and what the arguments of each execution are.
* `Performs` says that a machine carries executions out in order and reports those that fail.
* An evaluation does both (`evaluate_performs`), for live expressions at all times
  (`evaluate_stands`).
-/

namespace TextTemplate

/-! ## Calls and their executions -/

/-- A call in an expression: how it is reported, and the instance that it drives. -/
structure CallSite where
  key : String
  position : Nat
  callee : InstanceId
deriving DecidableEq, Repr

namespace Expression

mutual

/-- The calls of an expression, each after those in its arguments. -/
def sites : LiveExpression → List CallSite
  | ⟨_, pieces, _⟩ => sitesOfPieces pieces

/-- The calls in pieces. -/
def sitesOfPieces : List (Piece InstanceId) → List CallSite
  | [] => []
  | .text _ :: pieces => sitesOfPieces pieces
  | .var _ _ :: pieces => sitesOfPieces pieces
  | .call key callee arguments position :: pieces =>
    sitesOfArguments arguments ++ ⟨key, position, callee⟩ :: sitesOfPieces pieces

/-- The calls in arguments. -/
def sitesOfArguments : List LiveExpression → List CallSite
  | [] => []
  | e :: es => sites e ++ sitesOfArguments es

end

mutual

theorem map_callee_sites : (e : LiveExpression) → e.sites.map CallSite.callee = e.callees
  | ⟨_, pieces, _⟩ => by
    simpa only [sites, callees] using map_callee_sitesOfPieces pieces

theorem map_callee_sitesOfPieces : (pieces : List (Piece InstanceId)) →
    (sitesOfPieces pieces).map CallSite.callee = calleesOfPieces pieces
  | [] => rfl
  | .text _ :: pieces => by
    simpa only [sitesOfPieces, calleesOfPieces] using map_callee_sitesOfPieces pieces
  | .var _ _ :: pieces => by
    simpa only [sitesOfPieces, calleesOfPieces] using map_callee_sitesOfPieces pieces
  | .call _ _ arguments _ :: pieces => by
    simp only [sitesOfPieces, calleesOfPieces, List.map_append, List.map_cons,
      map_callee_sitesOfArguments arguments, map_callee_sitesOfPieces pieces]

theorem map_callee_sitesOfArguments : (es : List LiveExpression) →
    (sitesOfArguments es).map CallSite.callee = calleesOfArguments es
  | [] => rfl
  | e :: es => by
    simp only [sitesOfArguments, calleesOfArguments, List.map_append, map_callee_sites e,
      map_callee_sitesOfArguments es]

end

end Expression

/-- An execution of a call. -/
structure Execution where
  site : CallSite
  arguments : List String
  result : Except InvocationError String
  /-- That the instance was executed, the files that it read and what it logged itself. -/
  events : List Event

namespace Execution

/-- What an execution contributes to a text: its result, or nothing if it fails. -/
def value (x : Execution) : String :=
  match x.result with
  | .ok text => text
  | .error _ => ""

/-- What is reported of an execution: nothing but its failure. -/
def reports (x : Execution) : List LogRecord :=
  match x.result with
  | .ok _ => []
  | .error e => [failureRecord x.site.key x.site.position e]

/-- A report is never a note about a cache. -/
theorem filter_reports (x : Execution) :
    (x.reports.map Event.logged).filter (!·.isCachingNote) = x.reports.map .logged := by
  unfold reports
  cases x.result with
  | ok text => rfl
  | error e => simp

end Execution

/-! ## What expressions stand for -/

mutual

/-- Given the executions `xs` of all its calls, an expression stands for a text. -/
inductive Stands (context : Context) : LiveExpression → List Execution → String → Prop where
  | expression {raw : String} {pieces : List (Piece InstanceId)} {cache : Cache}
      {xs : List Execution} {text : String} (h : PiecesStand context pieces xs text) :
      Stands context ⟨raw, pieces, cache⟩ xs text

/-- Pieces stand for the concatenation of what they contribute, from left to right. The calls in
the arguments of a call are executed before it, and their values are what it is executed with. -/
inductive PiecesStand (context : Context) :
    List (Piece InstanceId) → List Execution → String → Prop where
  | nil : PiecesStand context [] [] ""
  | text {content : String} {pieces : List (Piece InstanceId)} {xs : List Execution}
      {text : String} (h : PiecesStand context pieces xs text) :
      PiecesStand context (.text content :: pieces) xs (content ++ text)
  | var {name : String} {position : Nat} {pieces : List (Piece InstanceId)}
      {xs : List Execution} {text : String} (h : PiecesStand context pieces xs text) :
      PiecesStand context (.var name position :: pieces) xs (context.valueOf name ++ text)
  | call {x : Execution} {arguments : List LiveExpression} {pieces : List (Piece InstanceId)}
      {xs ys : List Execution} {text : String}
      (ha : ArgumentsStand context arguments xs x.arguments)
      (h : PiecesStand context pieces ys text) :
      PiecesStand context (.call x.site.key x.site.callee arguments x.site.position :: pieces)
        (xs ++ x :: ys) (x.value ++ text)

/-- Arguments stand for their texts, from left to right. -/
inductive ArgumentsStand (context : Context) :
    List LiveExpression → List Execution → List String → Prop where
  | nil : ArgumentsStand context [] [] []
  | cons {e : LiveExpression} {es : List LiveExpression} {xs ys : List Execution}
      {text : String} {texts : List String} (h : Stands context e xs text)
      (hs : ArgumentsStand context es ys texts) :
      ArgumentsStand context (e :: es) (xs ++ ys) (text :: texts)

end

mutual

/-- The executions that an expression stands for a text with are those of its calls, in order. -/
theorem Stands.map_site {context : Context} : {e : LiveExpression} → {xs : List Execution} →
    {text : String} → Stands context e xs text → xs.map Execution.site = e.sites
  | _, _, _, .expression h => by
    simpa only [Expression.sites] using h.map_site

theorem PiecesStand.map_site {context : Context} : {pieces : List (Piece InstanceId)} →
    {xs : List Execution} → {text : String} → PiecesStand context pieces xs text →
    xs.map Execution.site = Expression.sitesOfPieces pieces
  | _, _, _, .nil => rfl
  | _, _, _, .text h => by simpa only [Expression.sitesOfPieces] using h.map_site
  | _, _, _, .var h => by simpa only [Expression.sitesOfPieces] using h.map_site
  | _, _, _, .call ha h => by
    simp only [Expression.sitesOfPieces, List.map_append, List.map_cons, ha.map_site, h.map_site]

theorem ArgumentsStand.map_site {context : Context} : {es : List LiveExpression} →
    {xs : List Execution} → {texts : List String} → ArgumentsStand context es xs texts →
    xs.map Execution.site = Expression.sitesOfArguments es
  | _, _, _, .nil => rfl
  | _, _, _, .cons h hs => by
    simp only [Expression.sitesOfArguments, List.map_append, h.map_site, hs.map_site]

end

/-- Plain pieces stand for their plain text, without executions. -/
theorem PiecesStand.plain (context : Context) {pieces : List (Piece InstanceId)}
    (h : Expression.allPlain pieces = true) :
    PiecesStand context pieces [] (Expression.plainText pieces) := by
  induction pieces with
  | nil => exact .nil
  | cons piece pieces ih =>
    simp only [Expression.allPlain, List.all_cons, Bool.and_eq_true] at h
    cases piece with
    | text content => exact .text (ih h.2)
    | var | call => simp [Piece.isDynamic] at h

/-! ## What machines perform -/

/-- Executing a call takes the machine `m` to `m'`. -/
structure Executes (scene : Scene) (m : Machine) (x : Execution) (m' : Machine) : Prop where
  execute : m.execute scene x.site.callee x.arguments = (x.result, m')
  trace : m'.trace.toList = m.trace.toList ++ x.events
  /-- The instance is executed once. -/
  once : x.events.filterMap Event.execution? = [(x.site.callee, x.arguments)]

/-- A machine carries executions out in order, and reports each that fails right after it. Notes
about caches may stand in between. -/
inductive Performs (scene : Scene) : Machine → List Execution → Machine → Prop where
  | nil {m : Machine} : Performs scene m [] m
  | note {m m' : Machine} {xs : List Execution} (raw : String)
      (h : Performs scene (m.log (cachingRecord raw)) xs m') : Performs scene m xs m'
  | cons {m m₁ m' : Machine} {x : Execution} {xs : List Execution} (hx : Executes scene m x m₁)
      (h : Performs scene (m₁.append (x.reports.map .logged)) xs m') :
      Performs scene m (x :: xs) m'

namespace Performs

variable {scene : Scene} {m m₁ m' : Machine} {xs ys : List Execution}

theorem append (h : Performs scene m xs m₁) (h' : Performs scene m₁ ys m') :
    Performs scene m (xs ++ ys) m' := by
  induction h with
  | nil => exact h'
  | note raw _ ih => exact .note raw (ih h')
  | cons hx _ ih => exact .cons hx (ih h')

/-- Notes aside, the trace gets the events of each execution and then its report. -/
theorem history (h : Performs scene m xs m') :
    m'.history = m.history ++ xs.flatMap fun x =>
      x.events.filter (!·.isCachingNote) ++ x.reports.map .logged := by
  induction h with
  | nil => simp
  | note raw _ ih => rw [ih, Machine.history_log_cachingRecord]
  | @cons m m₁ m' x xs hx _ ih =>
    have ht : m₁.history = m.history ++ x.events.filter (!·.isCachingNote) := by
      simp [Machine.history, hx.trace]
    rw [ih, Machine.history_append, ht, x.filter_reports, List.flatMap_cons, List.append_assoc,
      List.append_assoc, List.append_assoc]

/-- The executions in the trace are those that were performed. -/
theorem executions (h : Performs scene m xs m') :
    m'.executions = m.executions ++ xs.map fun x => (x.site.callee, x.arguments) := by
  induction h with
  | nil => simp
  | note raw _ ih => simp [ih, Machine.log, Event.execution?]
  | @cons m m₁ m' x xs hx _ ih =>
    have ht : m₁.executions = m.executions ++ [(x.site.callee, x.arguments)] := by
      rw [Machine.executions, hx.trace, List.filterMap_append, hx.once]
      rfl
    rw [ih, Machine.executions_append_logged, ht]
    simp

end Performs

/-! ## Evaluations perform what expressions stand for -/

theorem Machine.append_nil (m : Machine) : m.append [] = m := by
  simp [append]

/-- Executing an instance that exists is an execution. -/
theorem Machine.exists_executes (m : Machine) (scene : Scene) (site : CallSite)
    (arguments : List String) (h : site.callee < m.store.instances.size) :
    ∃ x : Execution, x.site = site ∧ x.arguments = arguments ∧
      Executes scene m x (m.execute scene site.callee arguments).2 := by
  have hi : m.store.get? site.callee = some m.store.instances[site.callee] := by
    simp [Store.get?, h]
  generalize m.store.instances[site.callee] = inst at hi
  let reply := inst.routine.run
    ⟨scene, arguments, m.store.shared inst.family, m.entropy⟩ inst.state
  refine ⟨⟨site, arguments, reply.result, eventsOf site.callee inst arguments reply⟩, rfl, rfl,
    ⟨?_, ?_, ?_⟩⟩
  · simp [execute, hi, reply]
  · simp [execute, hi, reply, append]
  · exact executions_eventsOf site.callee inst arguments reply

/-- A call contributes its value, and its failure is reported. -/
theorem contribution_eq (x : Execution) (m : Machine) :
    contribution x.site.key x.site.position x.result m =
      (x.value, m.append (x.reports.map .logged)) := by
  unfold contribution Execution.value Execution.reports
  cases x.result with
  | ok text => simp [Machine.append_nil]
  | error e => rfl

/-- What an evaluation does at a call is an execution, whose value it takes. -/
theorem exists_performs_call (m : Machine) (scene : Scene) (site : CallSite)
    (arguments : List String) (h : site.callee < m.store.instances.size) :
    ∃ x : Execution, x.site = site ∧ x.arguments = arguments ∧
      (contribution site.key site.position (m.execute scene site.callee arguments).1
        (m.execute scene site.callee arguments).2).1 = x.value ∧
      Performs scene m [x] (contribution site.key site.position
        (m.execute scene site.callee arguments).1 (m.execute scene site.callee arguments).2).2 := by
  rcases m.exists_executes scene site arguments h with ⟨x, rfl, rfl, hx⟩
  have hr : (m.execute scene x.site.callee x.arguments).1 = x.result := by rw [hx.execute]
  rw [hr, contribution_eq]
  exact ⟨x, rfl, rfl, rfl, .cons hx .nil⟩

/-- To remember a text is no execution. -/
theorem performs_remember (scene : Scene) (raw : String) (pieces : List (Piece InstanceId))
    (cache : Cache) (text : String) (m : Machine) :
    Performs scene m [] (remember raw pieces cache text m).2 := by
  unfold remember
  split
  · exact .note raw .nil
  · exact .nil

namespace Expression

mutual

/-- An evaluation performs executions with which the expression stands for the output. -/
theorem evaluate_performs (scene : Scene) : (e : LiveExpression) → (m : Machine) → e.Sound →
    (∀ id ∈ e.callees, id < m.store.instances.size) →
    ∃ xs, Stands scene.context e xs (e.evaluate scene m).1 ∧
      Performs scene m xs (e.evaluate scene m).2.2
  | ⟨_, pieces, .filled text⟩, m, h, _ => by
    -- What is remembered is the plain text of plain pieces, which need no execution.
    rcases h.1 text rfl with ⟨hp, rfl⟩
    simp only [evaluate]
    exact ⟨[], .expression (.plain scene.context hp), .nil⟩
  | ⟨raw, pieces, .disabled⟩, m, h, hi => by
    rcases evaluatePieces_performs scene pieces m h.2 hi with ⟨xs, hs, hx⟩
    simp only [evaluate]
    refine ⟨xs, .expression hs, ?_⟩
    simpa using hx.append (performs_remember scene raw _ .disabled _ _)
  | ⟨raw, pieces, .vacant⟩, m, h, hi => by
    rcases evaluatePieces_performs scene pieces m h.2 hi with ⟨xs, hs, hx⟩
    simp only [evaluate]
    refine ⟨xs, .expression hs, ?_⟩
    simpa using hx.append (performs_remember scene raw _ .vacant _ _)

theorem evaluatePieces_performs (scene : Scene) : (pieces : List (Piece InstanceId)) →
    (m : Machine) → SoundPieces pieces →
    (∀ id ∈ calleesOfPieces pieces, id < m.store.instances.size) →
    ∃ xs, PiecesStand scene.context pieces xs (evaluatePieces scene pieces m).1 ∧
      Performs scene m xs (evaluatePieces scene pieces m).2.2
  | [], m, _, _ => ⟨[], .nil, .nil⟩
  | .text _ :: pieces, m, h, hi => by
    rcases evaluatePieces_performs scene pieces m h hi with ⟨xs, hs, hx⟩
    simp only [evaluatePieces]
    exact ⟨xs, .text hs, hx⟩
  | .var _ _ :: pieces, m, h, hi => by
    rcases evaluatePieces_performs scene pieces m h hi with ⟨xs, hs, hx⟩
    simp only [evaluatePieces]
    exact ⟨xs, .var hs, hx⟩
  | .call key callee arguments position :: pieces, m, h, hi => by
    simp only [calleesOfPieces, List.mem_append, List.mem_cons] at hi
    obtain ⟨xs, hs, hx⟩ := evaluateArguments_performs scene arguments m h.1
      fun id hm => hi id (.inl hm)
    have hm₁ := evaluateArguments_size scene arguments m
    simp only [evaluatePieces]
    generalize evaluateArguments scene arguments m = r at hs hx hm₁ ⊢
    rcases r with ⟨values, arguments', m₁⟩
    -- The call itself, after its arguments, whatever their executions gave.
    obtain ⟨x, hsite, harguments, hvalue, hcall⟩ := exists_performs_call m₁ scene
      ⟨key, position, callee⟩ values (by rw [hm₁]; exact hi callee (.inr (.inl rfl)))
    have hm₂ := Machine.execute_size m₁ scene callee values
    obtain ⟨ys, ht, hy⟩ := evaluatePieces_performs scene pieces
      (contribution key position (m₁.execute scene callee values).1
        (m₁.execute scene callee values).2).2 h.2 fun id hm => by
          rw [contribution_store, hm₂, hm₁]
          exact hi id (.inr (.inr hm))
    refine ⟨xs ++ x :: ys, ?_, hx.append (hcall.append hy)⟩
    have hstand := PiecesStand.call (x := x) (harguments ▸ hs) ht
    rw [hsite, ← hvalue] at hstand
    exact hstand

theorem evaluateArguments_performs (scene : Scene) : (es : List LiveExpression) →
    (m : Machine) → SoundArguments es →
    (∀ id ∈ calleesOfArguments es, id < m.store.instances.size) →
    ∃ xs, ArgumentsStand scene.context es xs (evaluateArguments scene es m).1 ∧
      Performs scene m xs (evaluateArguments scene es m).2.2
  | [], m, _, _ => ⟨[], .nil, .nil⟩
  | e :: es, m, h, hi => by
    simp only [calleesOfArguments, List.mem_append] at hi
    obtain ⟨xs, hs, hx⟩ := evaluate_performs scene e m h.1 fun id hm => hi id (.inl hm)
    obtain ⟨ys, ht, hy⟩ := evaluateArguments_performs scene es (e.evaluate scene m).2.2 h.2
      fun id hm => by rw [evaluate_size]; exact hi id (.inr hm)
    simp only [evaluateArguments]
    exact ⟨xs ++ ys, .cons hs ht, hx.append hy⟩

end

end Expression

end TextTemplate
