import TextTemplate.Proofs.CachingFlag
import TextTemplate.Proofs.Layout
import TextTemplate.Proofs.PlainText

/-!
# What is remembered when

The caches of a live expression follow from how it came about and how often it was evaluated
since.

* `Expression.parts` are an expression and the arguments in it at any depth. `Expression.dueCache`
  is the cache that a part has before or after the first evaluation.
* Compiling and copying make parts that remember nothing (`relabel_fresh`); an evaluation fills
  all caches that it can (`evaluate_due`).
* `Session.Age` is told by the steps of a session alone. `Session.Aged` says that all live
  expressions have the caches of their age, and `Session.run_aged` that this is always so.
* `Session.run_caches` collects what follows.
-/

namespace TextTemplate

/-- A cache without content is of the kind of its source. -/
theorem Cache.vacate_eq_fresh (cache : Cache) : cache.vacate = .fresh cache.isEnabled := by
  cases cache <;> rfl

namespace Expression

universe u v w

variable {α : Type u} {β : Type v} {σ : Type w}

/-! ## Parts -/

mutual

/-- An expression and the arguments in it at any depth, each before those in it. -/
def parts : Expression α → List (Expression α)
  | ⟨raw, pieces, cache⟩ => ⟨raw, pieces, cache⟩ :: partsOfPieces pieces

/-- The arguments in pieces at any depth. -/
def partsOfPieces : List (Piece α) → List (Expression α)
  | [] => []
  | .text _ :: pieces => partsOfPieces pieces
  | .var _ _ :: pieces => partsOfPieces pieces
  | .call _ _ arguments _ :: pieces => partsOfArguments arguments ++ partsOfPieces pieces

/-- Arguments and the arguments in them at any depth. -/
def partsOfArguments : List (Expression α) → List (Expression α)
  | [] => []
  | e :: es => parts e ++ partsOfArguments es

end

/-- Pieces are plain if there are no calls and variables in them, at whatever depth. -/
theorem nodesOfPieces_eq_nil_iff (pieces : List (Piece α)) :
    nodesOfPieces pieces = [] ↔ allPlain pieces = true := by
  induction pieces with
  | nil => exact ⟨fun _ => rfl, fun _ => rfl⟩
  | cons piece pieces ih =>
    cases piece with
    | text content => exact ih
    | var | call => simp [nodesOfPieces, allPlain, Piece.isDynamic]

mutual

theorem parts_uncached : (e : Expression α) → e.uncached.parts = e.parts.map uncached
  | ⟨_, pieces, _⟩ => by
    simp only [uncached, parts, List.map_cons, partsOfPieces_uncached pieces]

theorem partsOfPieces_uncached : (pieces : List (Piece α)) →
    partsOfPieces (uncachedPieces pieces) = (partsOfPieces pieces).map uncached
  | [] => rfl
  | .text _ :: pieces => by
    simpa only [uncachedPieces, Piece.uncached, partsOfPieces] using partsOfPieces_uncached pieces
  | .var _ _ :: pieces => by
    simpa only [uncachedPieces, Piece.uncached, partsOfPieces] using partsOfPieces_uncached pieces
  | .call _ _ arguments _ :: pieces => by
    simp only [uncachedPieces, Piece.uncached, partsOfPieces, List.map_append,
      partsOfArguments_uncached arguments, partsOfPieces_uncached pieces]

theorem partsOfArguments_uncached : (es : List (Expression α)) →
    partsOfArguments (uncachedArguments es) = (partsOfArguments es).map uncached
  | [] => rfl
  | e :: es => by
    simp only [uncachedArguments, partsOfArguments, List.map_append, parts_uncached e,
      partsOfArguments_uncached es]

end

/-- Expressions that differ in caches only have their parts in the same places. -/
theorem exists_part_of_uncached_eq {e e' : Expression α} (h : e.uncached = e'.uncached) {i : Nat}
    {part : Expression α} (hpart : e.parts[i]? = some part) :
    ∃ part', e'.parts[i]? = some part' ∧ part.uncached = part'.uncached := by
  have hparts : (e.parts.map uncached)[i]? = (e'.parts.map uncached)[i]? := by
    rw [← parts_uncached, ← parts_uncached, h]
  rw [List.getElem?_map, List.getElem?_map, hpart, Option.map_some] at hparts
  obtain ⟨part', hpart', hsame⟩ := Option.map_eq_some_iff.mp hparts.symm
  exact ⟨part', hpart', hsame.symm⟩

/-! ## The cache of a part -/

/-- The cache of a part with these pieces: whether it was compiled with caching, and whether it
has been evaluated. -/
def dueCache (caching evaluated : Bool) (pieces : List (Piece α)) : Cache :=
  if evaluated && (caching && allPlain pieces) then .filled (plainText pieces)
  else .fresh caching

theorem dueCache_unevaluated (caching : Bool) (pieces : List (Piece α)) :
    dueCache caching false pieces = .fresh caching := rfl

theorem dueCache_eq_filled_iff {caching evaluated : Bool} {pieces : List (Piece α)}
    {text : String} :
    dueCache caching evaluated pieces = .filled text ↔
      evaluated = true ∧ caching = true ∧ allPlain pieces = true ∧ plainText pieces = text := by
  cases evaluated <;> cases caching <;> cases h : allPlain pieces <;>
    simp [dueCache, Cache.fresh, h]

@[simp]
theorem isEnabled_dueCache (caching evaluated : Bool) (pieces : List (Piece α)) :
    (dueCache caching evaluated pieces).isEnabled = caching := by
  cases evaluated <;> cases caching <;> cases h : allPlain pieces <;>
    simp [dueCache, Cache.fresh, Cache.isEnabled, h]

/-- Caches make no difference to the cache that is due. -/
theorem dueCache_uncachedPieces (caching evaluated : Bool) (pieces : List (Piece α)) :
    dueCache caching evaluated (uncachedPieces pieces) = dueCache caching evaluated pieces := by
  rw [dueCache, dueCache, allPlain_uncachedPieces, plainText_uncachedPieces]

/-- All parts have the caches that are due. -/
def HasCaches (caching evaluated : Bool) (e : Expression α) : Prop :=
  ∀ part ∈ e.parts, part.cache = dueCache caching evaluated part.pieces

/-- A part of an expression whose caches are due is cached exactly if it has been evaluated, it
has no calls and variables, and caching is on; and its plain text is what is remembered. -/
theorem HasCaches.isCached_iff {caching evaluated : Bool} {e part : Expression α}
    (h : HasCaches caching evaluated e) (hpart : part ∈ e.parts) :
    (part.isCached = true ↔ evaluated = true ∧ part.nodes = [] ∧ caching = true) ∧
      ∀ text, part.cache = .filled text → text = plainText part.pieces := by
  have hcache := h part hpart
  constructor
  · rw [nodes_eq, nodesOfPieces_eq_nil_iff]
    have hfilled : part.isCached = true ↔ ∃ text, part.cache = .filled text := by
      unfold isCached
      cases part.cache <;> simp [Cache.text?]
    rw [hfilled, hcache]
    simp only [dueCache_eq_filled_iff]
    constructor
    · rintro ⟨text, hevaluated, hcaching, hplain, -⟩
      exact ⟨hevaluated, hplain, hcaching⟩
    · rintro ⟨hevaluated, hplain, hcaching⟩
      exact ⟨_, hevaluated, hcaching, hplain, rfl⟩
  · intro text htext
    rw [hcache, dueCache_eq_filled_iff] at htext
    exact htext.2.2.2.symm

/-! ## Copies -/

section Copies

variable (f : α → σ → β × σ) {caching : Bool}

mutual

/-- A copy remembers nothing in any part, and may remember what its source may. -/
theorem relabel_fresh : (e : Expression α) → (s : σ) →
    (∀ part ∈ e.parts, part.cache.isEnabled = caching) →
    ∀ part ∈ (e.relabel f s).1.parts, part.cache = .fresh caching
  | ⟨raw, pieces, cache⟩, s, h => by
    rw [parts, List.forall_mem_cons] at h
    simp only [relabel, parts, List.forall_mem_cons]
    refine ⟨?_, relabelPieces_fresh pieces s h.2⟩
    rw [Cache.vacate_eq_fresh, h.1]

theorem relabelPieces_fresh : (pieces : List (Piece α)) → (s : σ) →
    (∀ part ∈ partsOfPieces pieces, part.cache.isEnabled = caching) →
    ∀ part ∈ partsOfPieces (relabelPieces f pieces s).1, part.cache = .fresh caching
  | [], _, _ => nofun
  | .text _ :: pieces, s, h => by
    simpa only [relabelPieces, partsOfPieces] using relabelPieces_fresh pieces s h
  | .var _ _ :: pieces, s, h => by
    simpa only [relabelPieces, partsOfPieces] using relabelPieces_fresh pieces s h
  | .call _ _ arguments _ :: pieces, s, h => by
    rw [partsOfPieces, List.forall_mem_append] at h
    simp only [relabelPieces, partsOfPieces]
    exact List.forall_mem_append.mpr
      ⟨relabelArguments_fresh arguments s h.1, relabelPieces_fresh pieces _ h.2⟩

theorem relabelArguments_fresh : (es : List (Expression α)) → (s : σ) →
    (∀ part ∈ partsOfArguments es, part.cache.isEnabled = caching) →
    ∀ part ∈ partsOfArguments (relabelArguments f es s).1, part.cache = .fresh caching
  | [], _, _ => nofun
  | e :: es, s, h => by
    rw [partsOfArguments, List.forall_mem_append] at h
    simp only [relabelArguments, partsOfArguments]
    exact List.forall_mem_append.mpr
      ⟨relabel_fresh e s h.1, relabelArguments_fresh es _ h.2⟩

end

theorem HasCaches.relabel {evaluated : Bool} {e : Expression α} (h : HasCaches caching evaluated e)
    (s : σ) : HasCaches caching false (e.relabel f s).1 := by
  apply relabel_fresh f e s
  intro part hpart
  rw [h part hpart, isEnabled_dueCache]

end Copies

theorem HasCaches.duplicate {caching evaluated : Bool} {e : LiveExpression}
    (h : HasCaches caching evaluated e) (deep : Bool) (store : Store) :
    HasCaches caching false (e.duplicate deep store).1 := by
  cases deep with
  | true => exact h.relabel _ store
  | false => exact h.relabel _ ()

/-! ## Trees of texts -/

mutual

/-- All caches of a tree with other caches are among the other ones. -/
theorem cache_transfer (g : Cache → Cache) (n : Nat) : (e : Expression α) →
    ∀ part ∈ (e.transfer g n).parts, ∃ cache, part.cache = g cache
  | ⟨_, pieces, cache⟩ => by
    simp only [transfer, parts, List.forall_mem_cons]
    exact ⟨⟨cache, rfl⟩, cache_transferPieces g n pieces⟩

theorem cache_transferPieces (g : Cache → Cache) (n : Nat) : (pieces : List (Piece α)) →
    ∀ part ∈ partsOfPieces (transferPieces g n pieces), ∃ cache, part.cache = g cache
  | [] => nofun
  | .text _ :: pieces => by
    simpa only [transferPieces, Piece.transfer, partsOfPieces] using cache_transferPieces g n pieces
  | .var _ _ :: pieces => by
    simpa only [transferPieces, Piece.transfer, partsOfPieces] using cache_transferPieces g n pieces
  | .call _ _ arguments _ :: pieces => by
    simp only [transferPieces, Piece.transfer, partsOfPieces]
    exact List.forall_mem_append.mpr
      ⟨cache_transferArguments g n arguments, cache_transferPieces g n pieces⟩

theorem cache_transferArguments (g : Cache → Cache) (n : Nat) : (es : List (Expression α)) →
    ∀ part ∈ partsOfArguments (transferArguments g n es), ∃ cache, part.cache = g cache
  | [] => nofun
  | e :: es => by
    simp only [transferArguments, partsOfArguments]
    exact List.forall_mem_append.mpr
      ⟨cache_transfer g n e, cache_transferArguments g n es⟩

end

/-- All parts of the tree of a text have the cache of a new expression. -/
theorem hasCaches_of_parse {registry : Registry} {config : EngineConfig} {text : String}
    {tree : Expression Routine} (h : parse registry config text = .ok tree) :
    HasCaches config.staticCaching false tree := by
  -- Replacing all caches by new ones makes no difference to what is parsed.
  have hconfig : ConfigTransfer (fun _ => .fresh config.staticCaching) config config := ⟨rfl, rfl⟩
  have hsame := parse_transfer hconfig registry text
  rw [h] at hsame
  have htree : tree = tree.transfer (fun _ => .fresh config.staticCaching) 0 :=
    Except.ok.inj hsame
  rw [htree]
  intro part hpart
  obtain ⟨cache, hcache⟩ := cache_transfer _ 0 tree part hpart
  rw [hcache, dueCache_unevaluated]

/-! ## Evaluations -/

/-- The value of pieces that are plain is their plain text. -/
theorem evaluatePieces_eq_plainText (scene : Scene) {pieces : List (Piece InstanceId)} {m : Machine}
    (h : allPlain (evaluatePieces scene pieces m).2.1 = true) :
    (evaluatePieces scene pieces m).1 = plainText (evaluatePieces scene pieces m).2.1 := by
  rw [allPlain_evaluatePieces] at h
  rw [evaluatePieces_of_allPlain scene h]

/-- An expression that is remembered, or not, has the cache that is due after an evaluation. -/
theorem hasCaches_remember (raw : String) {pieces : List (Piece InstanceId)} {cache : Cache}
    {text : String} {caching : Bool} (henabled : cache.isEnabled = caching)
    (hunfilled : cache.text? = none) (htext : allPlain pieces = true → text = plainText pieces)
    (hpieces : ∀ part ∈ partsOfPieces pieces, part.cache = dueCache caching true part.pieces)
    (m : Machine) : HasCaches caching true (remember raw pieces cache text m).1 := by
  unfold remember
  split
  · rename_i hr
    rw [Bool.and_eq_true, henabled] at hr
    obtain ⟨hcaching, hplain⟩ := hr
    rw [HasCaches, parts, List.forall_mem_cons]
    refine ⟨?_, hpieces⟩
    rw [htext hplain]
    exact (dueCache_eq_filled_iff.mpr ⟨rfl, hcaching, hplain, rfl⟩).symm
  · rename_i hr
    rw [henabled] at hr
    have hno : (caching && allPlain pieces) = false := Bool.eq_false_iff.mpr hr
    rw [HasCaches, parts, List.forall_mem_cons]
    refine ⟨?_, hpieces⟩
    rw [dueCache, hno, ← henabled]
    cases cache with
    | filled text => cases hunfilled
    | disabled | vacant => rfl

/-- An expression that remembers nothing yet, once its pieces are evaluated. -/
theorem hasCaches_evaluate (scene : Scene) (raw : String) {pieces : List (Piece InstanceId)}
    {cache : Cache} {caching evaluated : Bool} (hc : cache = dueCache caching evaluated pieces)
    (hunfilled : cache.text? = none) (m : Machine)
    (hpieces : ∀ part ∈ partsOfPieces (evaluatePieces scene pieces m).2.1,
      part.cache = dueCache caching true part.pieces) :
    HasCaches caching true (evaluate scene ⟨raw, pieces, cache⟩ m).2.1 := by
  have henabled : cache.isEnabled = caching := by rw [hc, isEnabled_dueCache]
  rw [evaluate_of_unfilled scene raw pieces hunfilled]
  exact hasCaches_remember raw henabled hunfilled (evaluatePieces_eq_plainText scene) hpieces _

-- Where a filled cache ends the evaluation at once, there has been one before, which filled all the
-- others.
mutual

/-- After an evaluation all parts have the caches that are due then. -/
theorem evaluate_due (scene : Scene) {caching evaluated : Bool} : (e : LiveExpression) →
    (m : Machine) → HasCaches caching evaluated e →
    HasCaches caching true (e.evaluate scene m).2.1
  | ⟨raw, pieces, .filled text⟩, m, h => by
    have hfilled := dueCache_eq_filled_iff.mp (h ⟨raw, pieces, .filled text⟩ (by simp [parts])).symm
    obtain ⟨hevaluated, -, -, -⟩ := hfilled
    rw [evaluate, ← hevaluated]
    exact h
  | ⟨raw, pieces, .disabled⟩, m, h => by
    rw [HasCaches, parts, List.forall_mem_cons] at h
    exact hasCaches_evaluate scene raw h.1 rfl m (evaluatePieces_due scene pieces m h.2)
  | ⟨raw, pieces, .vacant⟩, m, h => by
    rw [HasCaches, parts, List.forall_mem_cons] at h
    exact hasCaches_evaluate scene raw h.1 rfl m (evaluatePieces_due scene pieces m h.2)

theorem evaluatePieces_due (scene : Scene) {caching evaluated : Bool} :
    (pieces : List (Piece InstanceId)) → (m : Machine) →
    (∀ part ∈ partsOfPieces pieces, part.cache = dueCache caching evaluated part.pieces) →
    ∀ part ∈ partsOfPieces (evaluatePieces scene pieces m).2.1,
      part.cache = dueCache caching true part.pieces
  | [], _, _ => nofun
  | .text _ :: pieces, m, h => by
    simpa only [evaluatePieces, partsOfPieces] using evaluatePieces_due scene pieces m h
  | .var _ _ :: pieces, m, h => by
    simpa only [evaluatePieces, partsOfPieces] using evaluatePieces_due scene pieces m h
  | .call _ _ arguments _ :: pieces, m, h => by
    rw [partsOfPieces, List.forall_mem_append] at h
    simp only [evaluatePieces, partsOfPieces]
    exact List.forall_mem_append.mpr
      ⟨evaluateArguments_due scene arguments m h.1, evaluatePieces_due scene pieces _ h.2⟩

theorem evaluateArguments_due (scene : Scene) {caching evaluated : Bool} :
    (es : List LiveExpression) → (m : Machine) →
    (∀ part ∈ partsOfArguments es, part.cache = dueCache caching evaluated part.pieces) →
    ∀ part ∈ partsOfArguments (evaluateArguments scene es m).2.1,
      part.cache = dueCache caching true part.pieces
  | [], _, _ => nofun
  | e :: es, m, h => by
    rw [partsOfArguments, List.forall_mem_append] at h
    simp only [evaluateArguments, partsOfArguments]
    exact List.forall_mem_append.mpr
      ⟨evaluate_due scene e m h.1, evaluateArguments_due scene es _ h.2⟩

end

end Expression

namespace Session

open Expression (HasCaches)

/-! ## Ages -/

/-- How often an expression was evaluated since it was compiled or copied, and whether it was
compiled with caching. -/
structure Age where
  evaluations : Nat
  caching : Bool

/-- The ages of the expressions with names. -/
abbrev Ages := String → Option Age

/-- Ages after a name has changed its meaning. -/
def Ages.set (ages : Ages) (name : String) (age : Option Age) : Ages :=
  fun other => if name = other then age else ages other

/-- Ages after a step with this outcome. A copy starts anew and takes over what its source may
remember. -/
def Ages.step (ages : Ages) (engine : Engine) : Action → Outcome → Ages
  | .compile name _, .done => ages.set name (some ⟨0, engine.config.staticCaching⟩)
  | .bindEmpty name, .done => ages.set name (some ⟨0, true⟩)
  | .evaluate name, .output _ =>
    ages.set name ((ages name).map fun age => { age with evaluations := age.evaluations + 1 })
  | .duplicate source target _, .done =>
    ages.set target ((ages source).map fun age => { age with evaluations := 0 })
  | .drop name, .done => ages.set name none
  | _, _ => ages

/-- Ages after steps. -/
def agesAfter (s : Session) (ages : Ages) : List Action → Ages
  | [] => ages
  | action :: actions =>
    agesAfter (s.perform action).2 (ages.step s.engine action (s.perform action).1) actions

/-- The caches of an expression are those that are due at its age. -/
def IsOfAge (e : LiveExpression) (age : Age) : Prop :=
  HasCaches age.caching (0 < age.evaluations) e

/-- All live expressions are of their age. -/
def Aged (s : Session) (ages : Ages) : Prop :=
  ∀ name, Option.Rel IsOfAge (s.expression? name) (ages name)

theorem isOfAge_evaluate {e : LiveExpression} {age : Age} (h : IsOfAge e age) (scene : Scene)
    (m : Machine) :
    IsOfAge (e.evaluate scene m).2.1 { age with evaluations := age.evaluations + 1 } := by
  have hevaluated : decide (0 < age.evaluations + 1) = true := by simp
  rw [IsOfAge, hevaluated]
  exact Expression.evaluate_due scene e m h

theorem isOfAge_duplicate {e : LiveExpression} {age : Age} (h : IsOfAge e age) (deep : Bool)
    (store : Store) : IsOfAge (e.duplicate deep store).1 { age with evaluations := 0 } :=
  HasCaches.duplicate h deep store

theorem isOfAge_instantiate {registry : Registry} {config : EngineConfig} {text : String}
    {parsed : Expression Routine} (h : parse registry config text = .ok parsed) (store : Store) :
    IsOfAge (parsed.instantiate store).1 ⟨0, config.staticCaching⟩ :=
  (Expression.hasCaches_of_parse h).relabel _ store

theorem isOfAge_empty : IsOfAge .empty ⟨0, true⟩ := by
  intro part hpart
  rw [List.mem_singleton.mp hpart]
  rfl

variable {s s' : Session} {ages : Ages}

theorem Aged.found (h : Aged s ages) {name : String} {e : LiveExpression}
    (he : s.expression? name = some e) : ∃ age, ages name = some age ∧ IsOfAge e age := by
  have hname := h name
  rw [he] at hname
  cases hn : ages name with
  | none => rw [hn] at hname; cases hname
  | some age =>
    rw [hn] at hname
    cases hname with
    | some hage => exact ⟨age, rfl, hage⟩

theorem Aged.isSome_eq (h : Aged s ages) (name : String) :
    (s.expression? name).isSome = (ages name).isSome := by
  have hname := h name
  generalize s.expression? name = e at hname
  generalize ages name = age at hname
  cases hname <;> rfl

theorem Aged.of_keeps (h : Aged s ages) (hk : Keeps s s') : Aged s' ages := by
  intro name
  rw [hk.1]
  exact h name

theorem Aged.rebinds (h : Aged s ages) {name : String} {e : Option LiveExpression}
    (hr : Rebinds s s' name e) {age : Option Age} (hage : Option.Rel IsOfAge e age) :
    Aged s' (ages.set name age) := by
  intro other
  rw [hr other, Ages.set]
  split
  · exact hage
  · exact h other

/-- Every step leaves live expressions of their age. -/
theorem Aged.perform (h : Aged s ages) (action : Action) :
    Aged (s.perform action).2 (ages.step s.engine action (s.perform action).1) := by
  have ht := s.transition action
  generalize (s.perform action).1 = outcome at ht ⊢
  generalize (s.perform action).2 = s' at ht ⊢
  cases ht with
  | compiled parse names => exact h.rebinds names (.some (isOfAge_instantiate parse _))
  | rejected kept => exact h.of_keeps kept
  | emptied names => exact h.rebinds names (.some isOfAge_empty)
  | evaluated found names =>
    obtain ⟨age, hage, he⟩ := h.found found
    rw [Ages.step, hage]
    exact h.rebinds names (.some (isOfAge_evaluate he _ _))
  | copied found names =>
    obtain ⟨age, hage, he⟩ := h.found found
    rw [Ages.step, hage]
    exact h.rebinds names (.some (isOfAge_duplicate he _ _))
  | dropped names => exact h.rebinds names .none
  | absent kept =>
    have hsame : ages.step s.engine action .missing = ages := by cases action <;> rfl
    rw [hsame]
    exact h.of_keeps kept
  | resumed kept => exact h.of_keeps kept

/-- Steps leave live expressions of their age. -/
theorem run_aged (h : Aged s ages) (actions : List Action) :
    Aged (s.run actions).2 (agesAfter s ages actions) := by
  induction actions generalizing s ages with
  | nil => exact h
  | cons action actions ih => exact ih (h.perform action)

/-! ## Expressions that stay -/

/-- The name that a step gives a new meaning, if it succeeds. -/
def Action.target? : Action → Option String
  | compile name _ => some name
  | bindEmpty name => some name
  | duplicate _ target _ => some target
  | drop name => some name
  | evaluate _ => none
  | resume _ _ _ => none

/-- A step with this outcome leaves a name its expression. -/
def Spares (name : String) (step : Action × Outcome) : Prop :=
  step.1.target? = some name → step.2 ≠ .done

/-- The same expression, of the same age or evaluated since then. -/
structure Stays (e : LiveExpression) (age : Age) (e' : LiveExpression) (age' : Age) : Prop where
  tree : e.uncached = e'.uncached
  caching : age'.caching = age.caching
  evaluations : age.evaluations ≤ age'.evaluations

theorem Stays.refl (e : LiveExpression) (age : Age) : Stays e age e age := ⟨rfl, rfl, Nat.le_refl _⟩

theorem Stays.trans {e e' e'' : LiveExpression} {age age' age'' : Age} (h : Stays e age e' age')
    (h' : Stays e' age' e'' age'') : Stays e age e'' age'' :=
  ⟨h.tree.trans h'.tree, h'.caching.trans h.caching,
    Nat.le_trans h.evaluations h'.evaluations⟩

/-- What an expression that stays remembers in a part, it remembers from then on. -/
theorem Stays.remembers {e e' : LiveExpression} {age age' : Age} (h : Stays e age e' age')
    (he : IsOfAge e age) (he' : IsOfAge e' age') {i : Nat} {part : LiveExpression} {text : String}
    (hpart : e.parts[i]? = some part) (htext : part.cache = .filled text) :
    ∃ part', e'.parts[i]? = some part' ∧ part'.cache = .filled text := by
  obtain ⟨part', hpart', hsame⟩ := Expression.exists_part_of_uncached_eq h.tree hpart
  refine ⟨part', hpart', ?_⟩
  have hpieces : uncachedPieces part.pieces = uncachedPieces part'.pieces := by
    rcases part with ⟨_, pieces, _⟩
    rcases part' with ⟨_, pieces', _⟩
    simp only [Expression.uncached, Expression.mk.injEq] at hsame
    exact hsame.2.1
  rw [he part (List.mem_of_getElem? hpart), ← Expression.dueCache_uncachedPieces, hpieces,
    Expression.dueCache_uncachedPieces, Expression.dueCache_eq_filled_iff, decide_eq_true_iff]
    at htext
  rw [he' part' (List.mem_of_getElem? hpart'), Expression.dueCache_eq_filled_iff, h.caching,
    decide_eq_true_iff]
  exact ⟨Nat.lt_of_lt_of_le htext.1 h.evaluations, htext.2⟩

/-- An expression stays under a step that leaves its name to it. -/
theorem perform_stays {name : String} {e : LiveExpression} {age : Age}
    (he : s.expression? name = some e) (hage : ages name = some age) (action : Action)
    (hspares : Spares name (action, (s.perform action).1)) :
    ∃ e' age', (s.perform action).2.expression? name = some e' ∧
      ages.step s.engine action (s.perform action).1 name = some age' ∧ Stays e age e' age' := by
  have ht := s.transition action
  generalize (s.perform action).1 = outcome at ht hspares ⊢
  generalize (s.perform action).2 = s' at ht ⊢
  -- Where the step is about another name, both the expression and its age are as they were.
  have hother : ∀ {other : String} {d : Option LiveExpression} {age' : Option Age},
      Rebinds s s' other d → other ≠ name →
      ∃ e' age'', s'.expression? name = some e' ∧ ages.set other age' name = some age'' ∧
        Stays e age e' age'' := by
    intro other d age' hr hn
    refine ⟨e, age, ?_, ?_, .refl e age⟩
    · rw [hr.of_ne hn, he]
    · rw [Ages.set, if_neg hn, hage]
  have hkept : Keeps s s' → s'.expression? name = some e := fun hk => by rw [hk.1, he]
  cases ht with
  | compiled parse names =>
    exact hother names fun hn => hspares (congrArg some hn) rfl
  | rejected kept => exact ⟨e, age, hkept kept, hage, .refl e age⟩
  | emptied names => exact hother names fun hn => hspares (congrArg some hn) rfl
  | @evaluated evaluated d _ found names =>
    rw [Ages.step]
    by_cases hn : evaluated = name
    · subst hn
      rw [he] at found
      cases found
      refine ⟨_, { age with evaluations := age.evaluations + 1 }, names.self, ?_, ?_⟩
      · rw [Ages.set, if_pos rfl, hage]
        rfl
      · exact ⟨(Expression.evaluate_uncached _ e _).symm, rfl, Nat.le_succ _⟩
    · exact hother names hn
  | copied found names => exact hother names fun hn => hspares (congrArg some hn) rfl
  | dropped names => exact hother names fun hn => hspares (congrArg some hn) rfl
  | absent kept =>
    have hsame : ages.step s.engine action .missing = ages := by cases action <;> rfl
    rw [hsame]
    exact ⟨e, age, hkept kept, hage, .refl e age⟩
  | resumed kept => exact ⟨e, age, hkept kept, hage, .refl e age⟩

/-- An expression stays under steps that leave its name to it. -/
theorem run_stays {name : String} {e : LiveExpression} {age : Age}
    (he : s.expression? name = some e) (hage : ages name = some age) (actions : List Action)
    (hspares : ∀ step ∈ actions.zip (s.run actions).1, Spares name step) :
    ∃ e' age', (s.run actions).2.expression? name = some e' ∧
      agesAfter s ages actions name = some age' ∧ Stays e age e' age' := by
  induction actions generalizing s ages e age with
  | nil => exact ⟨e, age, he, hage, .refl e age⟩
  | cons action actions ih =>
    simp only [run, List.zip_cons_cons, List.forall_mem_cons] at hspares
    obtain ⟨e', age', he', hage', hstays⟩ := perform_stays he hage action hspares.1
    obtain ⟨e'', age'', he'', hage'', hstays'⟩ := ih he' hage' hspares.2
    exact ⟨e'', age'', he'', hage'', hstays.trans hstays'⟩

/-! ## Runs -/

/-- After any steps of a session, every live expression has an age. A part of it, at whatever
depth, is cached exactly if the expression has been evaluated since it was compiled or copied, the
part has no calls and variables, and caching was on; and then its plain text is what is
remembered. What a part remembers does not change as long as the name is left to the expression.
No part of a new copy is cached. -/
theorem run_caches (engine : Engine) (context : Context) (world : World) (machine : Machine)
    (actions : List Action) :
    let first := start engine context world machine
    let s := (first.run actions).2
    let ages := agesAfter first (fun _ => none) actions
    (∀ name, (s.expression? name).isSome = (ages name).isSome) ∧
      (∀ name e age, s.expression? name = some e → ages name = some age → ∀ part ∈ e.parts,
        (part.isCached = true ↔ 0 < age.evaluations ∧ part.nodes = [] ∧ age.caching = true) ∧
          ∀ text, part.cache = .filled text → text = Expression.plainText part.pieces) ∧
      (∀ name e later, s.expression? name = some e →
        (∀ step ∈ later.zip (s.run later).1, Spares name step) →
        ∃ e', (s.run later).2.expression? name = some e' ∧
          ∀ (i : Nat) (part : LiveExpression) (text : String), e.parts[i]? = some part →
            part.cache = .filled text → ∃ part', e'.parts[i]? = some part' ∧
              part'.cache = .filled text) ∧
      ∀ source target deep copy, (s.perform (.duplicate source target deep)).1 = .done →
        (s.perform (.duplicate source target deep)).2.expression? target = some copy →
        ∀ part ∈ copy.parts, part.isCached = false := by
  intro first s ages
  have hstart : Aged first fun _ => none := by
    intro name
    rw [expression?_start]
    exact .none
  have haged : Aged s ages := run_aged hstart actions
  refine ⟨haged.isSome_eq, ?_, ?_, ?_⟩
  · intro name e age he hage part hpart
    obtain ⟨age', hage', hof⟩ := haged.found he
    rw [hage] at hage'
    cases hage'
    have hexact := hof.isCached_iff hpart
    rwa [decide_eq_true_iff] at hexact
  · intro name e later he hspares
    obtain ⟨age, hage, hof⟩ := haged.found he
    obtain ⟨e', age', he', hage', hstays⟩ := run_stays he hage later hspares
    refine ⟨e', he', ?_⟩
    obtain ⟨age'', hage'', hof'⟩ := (run_aged haged later).found he'
    rw [hage'] at hage''
    cases hage''
    intro i part text hpart htext
    exact hstays.remembers hof hof' hpart htext
  · intro source target deep copy hdone hcopy part hpart
    -- A copy is of age zero.
    obtain ⟨age, hage, hof⟩ := (haged.perform (.duplicate source target deep)).found hcopy
    rw [hdone, Ages.step, Ages.set, if_pos rfl] at hage
    obtain ⟨age', -, rfl⟩ := Option.map_eq_some_iff.mp hage
    have hexact := (hof.isCached_iff hpart).1
    rw [decide_eq_true_iff] at hexact
    rw [Bool.eq_false_iff]
    intro hcached
    exact Nat.lt_irrefl 0 (hexact.mp hcached).1

end Session

end TextTemplate
