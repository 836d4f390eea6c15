import TextTemplate.Engine

/-!
# Expressions without their caches

Caches aside, an expression never changes, and neither does what stands at its calls.

* `Expression.uncached` takes the caches of a tree away. It commutes with `relabel`.
* Evaluations (`evaluate_uncached`) and shallow copies (`duplicateShallow_uncached`) give the same
  tree back, caches aside.
* `Expression.callees_uncached`: caches make no difference to what stands at the calls.
-/

namespace TextTemplate

universe u v w

variable {α : Type u} {β : Type v} {σ : Type w}

/-! ## Trees without caches -/

mutual

/-- The same expression, which may not remember anything. -/
def Expression.uncached : Expression α → Expression α
  | ⟨raw, pieces, _⟩ => ⟨raw, uncachedPieces pieces, .disabled⟩

/-- The same piece, with arguments that may not remember anything. -/
def Piece.uncached : Piece α → Piece α
  | .text content => .text content
  | .var name position => .var name position
  | .call key callee arguments position => .call key callee (uncachedArguments arguments) position

/-- The same pieces without caches. -/
def uncachedPieces : List (Piece α) → List (Piece α)
  | [] => []
  | piece :: pieces => piece.uncached :: uncachedPieces pieces

/-- The same arguments without caches. -/
def uncachedArguments : List (Expression α) → List (Expression α)
  | [] => []
  | e :: es => e.uncached :: uncachedArguments es

end

theorem uncachedPieces_eq_map (pieces : List (Piece α)) :
    uncachedPieces pieces = pieces.map Piece.uncached := by
  induction pieces with
  | nil => rfl
  | cons piece pieces ih => rw [uncachedPieces, ih, List.map_cons]

theorem uncachedArguments_eq_map (es : List (Expression α)) :
    uncachedArguments es = es.map Expression.uncached := by
  induction es with
  | nil => rfl
  | cons e es ih => rw [uncachedArguments, ih, List.map_cons]

@[simp]
theorem isDynamic_uncached (piece : Piece α) : piece.uncached.isDynamic = piece.isDynamic := by
  cases piece <;> rfl

/-- Caches aside, the same pieces stand at the same places. -/
theorem getElem?_pieces_uncached (e : Expression α) (i : Nat) :
    e.uncached.pieces[i]? = e.pieces[i]?.map Piece.uncached := by
  cases e with
  | mk raw pieces cache => simp [Expression.uncached, uncachedPieces_eq_map]

namespace Expression

/-! ## What stands at the calls -/

mutual

@[simp]
theorem callees_uncached : (e : Expression α) → e.uncached.callees = e.callees
  | ⟨_, pieces, _⟩ => by
    simp only [uncached, callees]
    exact calleesOfPieces_uncached pieces

theorem calleesOfPieces_uncached :
    (pieces : List (Piece α)) → calleesOfPieces (uncachedPieces pieces) = calleesOfPieces pieces
  | [] => rfl
  | .text _ :: pieces => by
    simpa only [uncachedPieces, Piece.uncached, calleesOfPieces] using
      calleesOfPieces_uncached pieces
  | .var _ _ :: pieces => by
    simpa only [uncachedPieces, Piece.uncached, calleesOfPieces] using
      calleesOfPieces_uncached pieces
  | .call _ _ arguments _ :: pieces => by
    simp only [uncachedPieces, Piece.uncached, calleesOfPieces,
      calleesOfArguments_uncached arguments, calleesOfPieces_uncached pieces]

theorem calleesOfArguments_uncached :
    (es : List (Expression α)) → calleesOfArguments (uncachedArguments es) = calleesOfArguments es
  | [] => rfl
  | e :: es => by
    simp only [uncachedArguments, calleesOfArguments, callees_uncached e,
      calleesOfArguments_uncached es]

end

/-- Where no call stands, the piece is the same. -/
theorem getElem?_pieces_uncached_of_no_call {e : Expression α} {i : Nat}
    (h : ∀ key callee arguments position,
      e.pieces[i]? = some (.call key callee arguments position) → False) :
    e.uncached.pieces[i]? = e.pieces[i]? := by
  rw [getElem?_pieces_uncached]
  cases hp : e.pieces[i]? with
  | none => rfl
  | some piece =>
    cases piece with
    | text | var => rfl
    | call key callee arguments position => exact (h key callee arguments position hp).elim

/-- Paths lead to the same callees. -/
@[simp]
theorem calleeAt?_uncached (e : Expression α) (path : List Nat) :
    e.uncached.calleeAt? path = e.calleeAt? path := by
  fun_induction calleeAt? e path with
  | case1 e i callee key arguments position h =>
    simp [calleeAt?, getElem?_pieces_uncached, h, Piece.uncached]
  | case2 e i h =>
    rw [calleeAt?, getElem?_pieces_uncached_of_no_call h]
    split
    · exact (h _ _ _ _ ‹_›).elim
    · rfl
  | case3 e i j path key callee arguments position hp inner ha ih =>
    simp [calleeAt?, getElem?_pieces_uncached, hp, Piece.uncached, uncachedArguments_eq_map, ha,
      ih]
  | case4 e i j path key callee arguments position hp ha =>
    simp [calleeAt?, getElem?_pieces_uncached, hp, Piece.uncached, uncachedArguments_eq_map, ha]
  | case5 e i j path h =>
    rw [calleeAt?, getElem?_pieces_uncached_of_no_call h]
    split
    · exact (h _ _ _ _ ‹_›).elim
    · rfl
  | case6 => simp [calleeAt?]

/-- Expressions that are the same without their caches have the same callees. -/
theorem callees_eq_of_uncached_eq {e e' : Expression α} (h : e.uncached = e'.uncached) :
    e.callees = e'.callees := by
  rw [← callees_uncached e, h, callees_uncached]

/-- Expressions that are the same without their caches have them at the same paths. -/
theorem calleeAt?_eq_of_uncached_eq {e e' : Expression α} (h : e.uncached = e'.uncached)
    (path : List Nat) : e.calleeAt? path = e'.calleeAt? path := by
  rw [← calleeAt?_uncached e, h, calleeAt?_uncached]

/-! ## What stands at the calls of copies -/

section Relabel

variable (f : α → σ → β × σ)

/-- Replaces the members of a list from left to right, passing a state on. -/
def relabelAll : List α → σ → List β × σ
  | [], s => ([], s)
  | a :: as, s => ((f a s).1 :: (relabelAll as (f a s).2).1, (relabelAll as (f a s).2).2)

theorem relabelAll_append (as bs : List α) (s : σ) :
    relabelAll f (as ++ bs) s =
      ((relabelAll f as s).1 ++ (relabelAll f bs (relabelAll f as s).2).1,
        (relabelAll f bs (relabelAll f as s).2).2) := by
  induction as generalizing s with
  | nil => rfl
  | cons a as ih => simp only [List.cons_append, relabelAll, ih]

mutual

/-- A copy of a tree replaces what stands at its calls from left to right. -/
theorem relabel_all : (e : Expression α) → (s : σ) →
    ((e.relabel f s).1.callees, (e.relabel f s).2) = relabelAll f e.callees s
  | ⟨_, pieces, _⟩, s => by
    simp only [relabel, callees]
    exact relabelPieces_all pieces s

theorem relabelPieces_all : (pieces : List (Piece α)) → (s : σ) →
    (calleesOfPieces (relabelPieces f pieces s).1, (relabelPieces f pieces s).2) =
      relabelAll f (calleesOfPieces pieces) s
  | [], _ => rfl
  | .text _ :: pieces, s => by
    simpa only [relabelPieces, calleesOfPieces] using relabelPieces_all pieces s
  | .var _ _ :: pieces, s => by
    simpa only [relabelPieces, calleesOfPieces] using relabelPieces_all pieces s
  | .call _ callee arguments _ :: pieces, s => by
    rw [calleesOfPieces, relabelAll_append, ← relabelArguments_all arguments s]
    simp only [relabelAll, relabelPieces, calleesOfPieces, ← relabelPieces_all pieces]

theorem relabelArguments_all : (es : List (Expression α)) → (s : σ) →
    (calleesOfArguments (relabelArguments f es s).1, (relabelArguments f es s).2) =
      relabelAll f (calleesOfArguments es) s
  | [], _ => rfl
  | e :: es, s => by
    rw [calleesOfArguments, relabelAll_append, ← relabel_all e s]
    simp only [relabelArguments, calleesOfArguments, ← relabelArguments_all es]

end

theorem callees_relabel (e : Expression α) (s : σ) :
    (e.relabel f s).1.callees = (relabelAll f e.callees s).1 :=
  congrArg Prod.fst (relabel_all f e s)

theorem relabel_state (e : Expression α) (s : σ) :
    (e.relabel f s).2 = (relabelAll f e.callees s).2 :=
  congrArg Prod.snd (relabel_all f e s)

end Relabel

/-! ## Copies -/

section Copies

variable (f : α → σ → β × σ)

mutual

/-- The copy of a tree without caches is the copy of the tree, without its caches. -/
theorem relabel_uncached : (e : Expression α) → (s : σ) →
    e.uncached.relabel f s = ((e.relabel f s).1.uncached, (e.relabel f s).2)
  | ⟨_, pieces, _⟩, s => by
    simp only [uncached, relabel, relabelPieces_uncached pieces s, Cache.vacate]

theorem relabelPieces_uncached : (pieces : List (Piece α)) → (s : σ) →
    relabelPieces f (uncachedPieces pieces) s =
      (uncachedPieces (relabelPieces f pieces s).1, (relabelPieces f pieces s).2)
  | [], _ => rfl
  | .text _ :: pieces, s => by
    simp only [uncachedPieces, Piece.uncached, relabelPieces, relabelPieces_uncached pieces s]
  | .var _ _ :: pieces, s => by
    simp only [uncachedPieces, Piece.uncached, relabelPieces, relabelPieces_uncached pieces s]
  | .call _ _ arguments _ :: pieces, s => by
    simp only [uncachedPieces, Piece.uncached, relabelPieces,
      relabelArguments_uncached arguments s, relabelPieces_uncached pieces]

theorem relabelArguments_uncached : (es : List (Expression α)) → (s : σ) →
    relabelArguments f (uncachedArguments es) s =
      (uncachedArguments (relabelArguments f es s).1, (relabelArguments f es s).2)
  | [], _ => rfl
  | e :: es, s => by
    simp only [uncachedArguments, relabelArguments, relabel_uncached e s,
      relabelArguments_uncached es]

end

/-- Copies of trees that are the same caches aside are the same caches aside. -/
theorem relabel_congr {e e' : Expression α} (h : e.uncached = e'.uncached) (s : σ) :
    (e.relabel f s).1.uncached = (e'.relabel f s).1.uncached ∧
      (e.relabel f s).2 = (e'.relabel f s).2 := by
  have he := relabel_uncached f e s
  rw [h, relabel_uncached f e' s] at he
  exact ⟨(congrArg Prod.fst he).symm, (congrArg Prod.snd he).symm⟩

end Copies

theorem instantiate_congr {e e' : Expression Routine} (h : e.uncached = e'.uncached)
    (store : Store) :
    (e.instantiate store).1.uncached = (e'.instantiate store).1.uncached ∧
      (e.instantiate store).2 = (e'.instantiate store).2 :=
  relabel_congr _ h store

mutual

/-- A shallow copy is the same tree, caches aside. -/
theorem relabel_same_uncached : (e : Expression α) →
    (e.relabel (fun a (_ : Unit) => (a, ())) ()).1.uncached = e.uncached
  | ⟨_, pieces, _⟩ => by
    simp only [relabel, uncached, relabelPieces_same_uncached pieces]

theorem relabelPieces_same_uncached : (pieces : List (Piece α)) →
    uncachedPieces (relabelPieces (fun a (_ : Unit) => (a, ())) pieces ()).1 =
      uncachedPieces pieces
  | [] => rfl
  | .text _ :: pieces => by
    simp only [relabelPieces, uncachedPieces, relabelPieces_same_uncached pieces]
  | .var _ _ :: pieces => by
    simp only [relabelPieces, uncachedPieces, relabelPieces_same_uncached pieces]
  | .call _ _ arguments _ :: pieces => by
    simp only [relabelPieces, uncachedPieces, Piece.uncached,
      relabelArguments_same_uncached arguments, relabelPieces_same_uncached pieces]

theorem relabelArguments_same_uncached : (es : List (Expression α)) →
    uncachedArguments (relabelArguments (fun a (_ : Unit) => (a, ())) es ()).1 =
      uncachedArguments es
  | [] => rfl
  | e :: es => by
    simp only [relabelArguments, uncachedArguments, relabel_same_uncached e,
      relabelArguments_same_uncached es]

end

theorem duplicateShallow_uncached (e : LiveExpression) :
    e.duplicateShallow.uncached = e.uncached :=
  relabel_same_uncached e

theorem duplicate_congr {e e' : LiveExpression} (h : e.uncached = e'.uncached) (deep : Bool)
    (store : Store) :
    (e.duplicate deep store).1.uncached = (e'.duplicate deep store).1.uncached ∧
      (e.duplicate deep store).2 = (e'.duplicate deep store).2 := by
  cases deep with
  | true => exact relabel_congr _ h store
  | false =>
    refine ⟨?_, rfl⟩
    simp only [duplicate, Bool.false_eq_true, if_false, duplicateShallow_uncached, h]

/-! ## Evaluations -/

/-- What becomes of an expression that does not remember its text yet. -/
theorem evaluate_of_unfilled (scene : Scene) (raw : String) (pieces : List (Piece InstanceId))
    {cache : Cache} (h : cache.text? = none) (m : Machine) :
    evaluate scene ⟨raw, pieces, cache⟩ m =
      let (text, pieces, m) := evaluatePieces scene pieces m
      let (e, m) := remember raw pieces cache text m
      (text, e, m) := by
  cases cache with
  | filled text => cases h
  | disabled | vacant => simp only [evaluate]

/-- Remembering a text changes the cache only. -/
theorem remember_uncached (raw : String) (pieces : List (Piece InstanceId)) (cache : Cache)
    (text : String) (m : Machine) :
    (remember raw pieces cache text m).1.uncached = ⟨raw, uncachedPieces pieces, .disabled⟩ := by
  unfold remember
  split <;> rfl

mutual

/-- An evaluation changes caches only. -/
theorem evaluate_uncached (scene : Scene) : (e : LiveExpression) → (m : Machine) →
    (e.evaluate scene m).2.1.uncached = e.uncached
  | ⟨_, _, .filled _⟩, _ => by simp only [evaluate]
  | ⟨raw, pieces, .disabled⟩, m => by
    simp only [evaluate, remember_uncached, evaluatePieces_uncached scene pieces m, uncached]
  | ⟨raw, pieces, .vacant⟩, m => by
    simp only [evaluate, remember_uncached, evaluatePieces_uncached scene pieces m, uncached]

theorem evaluatePieces_uncached (scene : Scene) : (pieces : List (Piece InstanceId)) →
    (m : Machine) → uncachedPieces (evaluatePieces scene pieces m).2.1 = uncachedPieces pieces
  | [], _ => rfl
  | .text _ :: pieces, m => by
    simp only [evaluatePieces, uncachedPieces, evaluatePieces_uncached scene pieces m]
  | .var _ _ :: pieces, m => by
    simp only [evaluatePieces, uncachedPieces, evaluatePieces_uncached scene pieces m]
  | .call _ _ arguments _ :: pieces, m => by
    simp only [evaluatePieces, uncachedPieces, Piece.uncached,
      evaluateArguments_uncached scene arguments m, evaluatePieces_uncached scene pieces]

theorem evaluateArguments_uncached (scene : Scene) : (es : List LiveExpression) →
    (m : Machine) →
    uncachedArguments (evaluateArguments scene es m).2.1 = uncachedArguments es
  | [], _ => rfl
  | e :: es, m => by
    simp only [evaluateArguments, uncachedArguments, evaluate_uncached scene e m,
      evaluateArguments_uncached scene es]

end

end Expression

end TextTemplate
