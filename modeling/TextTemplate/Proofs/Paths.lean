import Mathlib.Data.List.Nodup
import TextTemplate.Proofs.Trees

/-!
# Paths to calls

Every call of an expression has a path, and paths tell calls apart when each call drives an
instance of its own.

* `Expression.LeadsTo` is the relation that `calleeAt?` computes.
* `Expression.mem_callees_iff`: what stands at the calls is what paths lead to.
* `Expression.LeadsTo.injective`: when nothing stands at two calls, different paths lead to
  different callees.
-/

namespace TextTemplate

universe u

variable {α : Type u}

/-- Where a `flatMap` has no duplicates, an element comes from one place only. -/
theorem index_eq_of_nodup_flatMap {β γ : Type u} {l : List β} {f : β → List γ}
    (h : (l.flatMap f).Nodup) {i j : Nat} {x y : β} {a : γ} (hx : l[i]? = some x)
    (hy : l[j]? = some y) (hax : a ∈ f x) (hay : a ∈ f y) : i = j := by
  have hd := List.pairwise_iff_getElem.mp (List.nodup_flatMap.mp h).2
  rcases List.getElem?_eq_some_iff.mp hx with ⟨hi, rfl⟩
  rcases List.getElem?_eq_some_iff.mp hy with ⟨hj, rfl⟩
  rcases Nat.lt_trichotomy i j with hlt | heq | hgt
  · exact (hd i j hi hj hlt hax hay).elim
  · exact heq
  · exact (hd j i hj hi hgt hay hax).elim

/-- What stands at the calls of a piece. -/
def Piece.callees : Piece α → List α
  | .text _ => []
  | .var _ _ => []
  | .call _ callee arguments _ => Expression.calleesOfArguments arguments ++ [callee]

namespace Expression

theorem callees_eq_flatMap (e : Expression α) : e.callees = e.pieces.flatMap Piece.callees := by
  rcases e with ⟨raw, pieces, cache⟩
  rw [callees]
  induction pieces with
  | nil => rfl
  | cons piece pieces ih =>
    cases piece <;> simp [calleesOfPieces, Piece.callees, ih]

theorem calleesOfArguments_eq_flatMap (es : List (Expression α)) :
    calleesOfArguments es = es.flatMap callees := by
  induction es with
  | nil => rfl
  | cons e es ih => rw [calleesOfArguments, ih, List.flatMap_cons]

/-! ## Paths -/

/-- A path leads to what stands at a call. -/
inductive LeadsTo : Expression α → List Nat → α → Prop where
  | here {e : Expression α} {i : Nat} {key : String} {callee : α}
      {arguments : List (Expression α)} {position : Nat}
      (h : e.pieces[i]? = some (.call key callee arguments position)) : LeadsTo e [i] callee
  | inside {e inner : Expression α} {i j : Nat} {key : String} {callee a : α}
      {arguments : List (Expression α)} {position : Nat} {path : List Nat}
      (hp : e.pieces[i]? = some (.call key callee arguments position))
      (ha : arguments[j]? = some inner) (h : LeadsTo inner path a) : LeadsTo e (i :: j :: path) a

theorem calleeAt?_eq_some_iff {e : Expression α} {path : List Nat} {a : α} :
    e.calleeAt? path = some a ↔ LeadsTo e path a := by
  constructor
  · intro h
    fun_induction calleeAt? e path with
    | case1 e i callee key arguments position hp =>
      cases h
      exact .here hp
    | case3 e i j path key callee arguments position hp inner ha ih => exact .inside hp ha (ih h)
    | case2 | case4 | case5 | case6 => cases h
  · intro h
    induction h with
    | here hp => simp [calleeAt?, hp]
    | inside hp ha _ ih => simp [calleeAt?, hp, ha, ih]

theorem mem_callees_of_piece {e : Expression α} {i : Nat} {piece : Piece α} {a : α}
    (hp : e.pieces[i]? = some piece) (ha : a ∈ piece.callees) : a ∈ e.callees := by
  rw [callees_eq_flatMap]
  exact List.mem_flatMap.mpr ⟨piece, List.mem_of_getElem? hp, ha⟩

theorem mem_callees_of_argument {arguments : List (Expression α)} {key : String} {callee a : α}
    {position j : Nat} {inner : Expression α} (hj : arguments[j]? = some inner)
    (ha : a ∈ inner.callees) : a ∈ (Piece.call key callee arguments position).callees := by
  rw [Piece.callees, calleesOfArguments_eq_flatMap]
  exact List.mem_append_left _ (List.mem_flatMap.mpr ⟨inner, List.mem_of_getElem? hj, ha⟩)

/-- Paths lead to nothing but what stands at the calls. -/
theorem LeadsTo.mem {e : Expression α} {path : List Nat} {a : α} (h : LeadsTo e path a) :
    a ∈ e.callees := by
  induction h with
  | here hp => exact mem_callees_of_piece hp (by simp [Piece.callees])
  | inside hp ha _ ih => exact mem_callees_of_piece hp (mem_callees_of_argument ha ih)

mutual

theorem exists_path : (e : Expression α) → {a : α} → a ∈ e.callees → ∃ path, LeadsTo e path a
  | ⟨raw, pieces, cache⟩, a, h => by
    rcases exists_pathOfPieces pieces h with ⟨i, key, callee, arguments, position, hp, hc⟩
    rcases hc with rfl | ⟨j, inner, path, hj, hl⟩
    · exact ⟨[i], .here hp⟩
    · exact ⟨i :: j :: path, .inside hp hj hl⟩

theorem exists_pathOfPieces : (pieces : List (Piece α)) → {a : α} →
    a ∈ calleesOfPieces pieces →
    ∃ (i : Nat) (key : String) (callee : α) (arguments : List (Expression α)) (position : Nat),
      pieces[i]? = some (.call key callee arguments position) ∧
        (a = callee ∨ ∃ (j : Nat) (inner : Expression α) (path : List Nat),
          arguments[j]? = some inner ∧ LeadsTo inner path a)
  | [], _, h => by simp [calleesOfPieces] at h
  | .text _ :: pieces, a, h => by
    rcases exists_pathOfPieces pieces h with ⟨i, hi⟩
    exact ⟨i + 1, hi⟩
  | .var _ _ :: pieces, a, h => by
    rcases exists_pathOfPieces pieces h with ⟨i, hi⟩
    exact ⟨i + 1, hi⟩
  | .call key callee arguments position :: pieces, a, h => by
    simp only [calleesOfPieces, List.mem_append, List.mem_cons] at h
    rcases h with ha | rfl | hp
    · exact ⟨0, key, callee, arguments, position, rfl, .inr (exists_pathOfArguments arguments ha)⟩
    · exact ⟨0, key, _, arguments, position, rfl, .inl rfl⟩
    · rcases exists_pathOfPieces pieces hp with ⟨i, hi⟩
      exact ⟨i + 1, hi⟩

theorem exists_pathOfArguments : (es : List (Expression α)) → {a : α} →
    a ∈ calleesOfArguments es →
    ∃ (j : Nat) (inner : Expression α) (path : List Nat),
      es[j]? = some inner ∧ LeadsTo inner path a
  | [], _, h => by simp [calleesOfArguments] at h
  | e :: es, a, h => by
    simp only [calleesOfArguments, List.mem_append] at h
    rcases h with he | hs
    · rcases exists_path e he with ⟨path, hl⟩
      exact ⟨0, e, path, rfl, hl⟩
    · rcases exists_pathOfArguments es hs with ⟨j, hj⟩
      exact ⟨j + 1, hj⟩

end

/-- What stands at the calls is what paths lead to. -/
theorem mem_callees_iff {e : Expression α} {a : α} :
    a ∈ e.callees ↔ ∃ path, LeadsTo e path a :=
  ⟨exists_path e, fun ⟨_, h⟩ => h.mem⟩

/-! ## Paths tell calls apart -/

section Nodup

variable {e inner inner' : Expression α} {i j : Nat} {piece piece' : Piece α} {key : String}
  {callee a : α} {arguments : List (Expression α)} {position : Nat}

theorem nodup_of_piece (h : e.callees.Nodup) (hi : e.pieces[i]? = some piece) :
    piece.callees.Nodup := by
  rw [callees_eq_flatMap] at h
  exact (List.nodup_flatMap.mp h).1 piece (List.mem_of_getElem? hi)

theorem index_eq_of_pieces (h : e.callees.Nodup) (hi : e.pieces[i]? = some piece)
    (hj : e.pieces[j]? = some piece') (ha : a ∈ piece.callees) (ha' : a ∈ piece'.callees) :
    i = j := by
  rw [callees_eq_flatMap] at h
  exact index_eq_of_nodup_flatMap h hi hj ha ha'

theorem nodup_of_argument (h : (Piece.call key callee arguments position).callees.Nodup)
    (hi : arguments[i]? = some inner) : inner.callees.Nodup := by
  rw [Piece.callees, calleesOfArguments_eq_flatMap] at h
  exact (List.nodup_flatMap.mp (List.nodup_append.mp h).1).1 inner (List.mem_of_getElem? hi)

theorem index_eq_of_arguments (h : (Piece.call key callee arguments position).callees.Nodup)
    (hi : arguments[i]? = some inner) (hj : arguments[j]? = some inner')
    (ha : a ∈ inner.callees) (ha' : a ∈ inner'.callees) : i = j := by
  rw [Piece.callees, calleesOfArguments_eq_flatMap] at h
  exact index_eq_of_nodup_flatMap (List.nodup_append.mp h).1 hi hj ha ha'

/-- What stands at a call does not stand at a call in its arguments. -/
theorem not_mem_argument (h : (Piece.call key callee arguments position).callees.Nodup)
    (hi : arguments[i]? = some inner) : callee ∉ inner.callees := by
  intro ha
  rw [Piece.callees, calleesOfArguments_eq_flatMap] at h
  exact (List.nodup_append.mp h).2.2 callee
    (List.mem_flatMap.mpr ⟨inner, List.mem_of_getElem? hi, ha⟩) callee (by simp) rfl

end Nodup

theorem mem_callees_self (key : String) (callee : α) (arguments : List (Expression α))
    (position : Nat) : callee ∈ (Piece.call key callee arguments position).callees := by
  simp [Piece.callees]

/-- When nothing stands at two calls, different paths lead to different callees. -/
theorem LeadsTo.injective {e : Expression α} {p q : List Nat} {a : α} (hp : LeadsTo e p a)
    (hq : LeadsTo e q a) (h : e.callees.Nodup) : p = q := by
  induction hp generalizing q with
  | here hi =>
    cases hq with
    | here hi' =>
      rw [index_eq_of_pieces h hi hi' (mem_callees_self ..) (mem_callees_self ..)]
    | inside hi' hj hl =>
      -- The callee would stand at a call and again in the arguments of that call.
      rcases index_eq_of_pieces h hi hi' (mem_callees_self ..)
        (mem_callees_of_argument hj hl.mem) with rfl
      cases hi.symm.trans hi'
      exact (not_mem_argument (nodup_of_piece h hi) hj hl.mem).elim
  | inside hi hj hl ih =>
    cases hq with
    | here hi' =>
      rcases index_eq_of_pieces h hi hi' (mem_callees_of_argument hj hl.mem)
        (mem_callees_self ..) with rfl
      cases hi.symm.trans hi'
      exact (not_mem_argument (nodup_of_piece h hi) hj hl.mem).elim
    | inside hi' hj' hl' =>
      rcases index_eq_of_pieces h hi hi' (mem_callees_of_argument hj hl.mem)
        (mem_callees_of_argument hj' hl'.mem) with rfl
      cases hi.symm.trans hi'
      rcases index_eq_of_arguments (nodup_of_piece h hi) hj hj' hl.mem hl'.mem with rfl
      cases hj.symm.trans hj'
      rw [ih hl' (nodup_of_argument (nodup_of_piece h hi) hj)]

end Expression

end TextTemplate
