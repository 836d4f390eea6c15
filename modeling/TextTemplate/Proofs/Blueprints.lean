import TextTemplate.Proofs.Layout
import TextTemplate.Proofs.Renaming
import TextTemplate.Proofs.Rendering

/-!
# Blueprints

A live expression with the routines and states of its instances in place of their numbers. Live
expressions that have the same blueprint differ in nothing but the numbers of their instances.

* `Expression.relabel_rename`: to rename what stands at the calls of a copy is to copy with other
  names.
* `Expression.blueprint_instantiate`: the blueprint of a compiled tree is the tree with every
  routine in its initial state.
* `Expression.nodes_rename` and `Piece.placedArguments_rename`: renaming keeps references and their
  arguments where they are.
-/

namespace TextTemplate

universe u v w x

variable {α : Type u} {β : Type v} {γ : Type x} {σ : Type w}

theorem Cache.vacate_vacate (cache : Cache) : cache.vacate.vacate = cache.vacate := by
  cases cache <;> rfl

namespace Expression

/-! ## Renaming copies -/

section Copies

variable (f : α → σ → β × σ) (ρ : β → γ)

/-- What replaces the callees of a tree, renamed. -/
def renamed : α → σ → γ × σ := fun a s => (ρ (f a s).1, (f a s).2)

theorem relabelAll_renamed (as : List α) (s : σ) :
    relabelAll (renamed f ρ) as s = ((relabelAll f as s).1.map ρ, (relabelAll f as s).2) := by
  induction as generalizing s with
  | nil => rfl
  | cons a as ih => simp only [relabelAll, ih, renamed, List.map_cons]

mutual

theorem relabel_rename : (e : Expression α) → (s : σ) →
    e.relabel (renamed f ρ) s = ((e.relabel f s).1.rename ρ, (e.relabel f s).2)
  | ⟨_, pieces, _⟩, s => by
    simp only [relabel, rename, relabelPieces_rename pieces s, Cache.vacate_vacate]

theorem relabelPieces_rename : (pieces : List (Piece α)) → (s : σ) →
    relabelPieces (renamed f ρ) pieces s =
      ((relabelPieces (fun b (_ : Unit) => (ρ b, ())) (relabelPieces f pieces s).1 ()).1,
        (relabelPieces f pieces s).2)
  | [], _ => rfl
  | .text _ :: pieces, s => by
    simp only [relabelPieces, relabelPieces_rename pieces s]
  | .var _ _ :: pieces, s => by
    simp only [relabelPieces, relabelPieces_rename pieces s]
  | .call _ _ arguments _ :: pieces, s => by
    simp only [relabelPieces, relabelArguments_rename arguments s, renamed,
      relabelPieces_rename pieces]

theorem relabelArguments_rename : (es : List (Expression α)) → (s : σ) →
    relabelArguments (renamed f ρ) es s =
      ((relabelArguments (fun b (_ : Unit) => (ρ b, ())) (relabelArguments f es s).1 ()).1,
        (relabelArguments f es s).2)
  | [], _ => rfl
  | e :: es, s => by
    simp only [relabelArguments, relabel_rename e s, relabelArguments_rename es]
    rfl

end

end Copies

/-! ## References of a renamed tree -/

section Nodes

variable (ρ : α → β)

/-- The same piece with something else at its calls. -/
def renamePiece : Piece α → Piece β
  | .text content => .text content
  | .var name position => .var name position
  | .call key callee arguments position =>
    .call key (ρ callee) (arguments.map (rename ρ)) position

theorem relabelArguments_eq_map (es : List (Expression α)) :
    (relabelArguments (fun a (_ : Unit) => (ρ a, ())) es ()).1 = es.map (rename ρ) := by
  induction es with
  | nil => rfl
  | cons e es ih =>
    rw [List.map_cons, ← ih]
    rfl

mutual

theorem nodes_rename : (e : Expression α) → (e.rename ρ).nodes = e.nodes.map (renamePiece ρ)
  | ⟨_, pieces, _⟩ => by
    simp only [rename, relabel, nodes, nodesOfPieces_rename pieces]

theorem nodesOfPieces_rename : (pieces : List (Piece α)) →
    nodesOfPieces (relabelPieces (fun a (_ : Unit) => (ρ a, ())) pieces ()).1 =
      (nodesOfPieces pieces).map (renamePiece ρ)
  | [] => rfl
  | .text _ :: pieces => by
    simp only [relabelPieces, nodesOfPieces, nodesOfPieces_rename pieces]
  | .var _ _ :: pieces => by
    simp only [relabelPieces, nodesOfPieces, List.map_cons, renamePiece,
      nodesOfPieces_rename pieces]
  | .call _ _ arguments _ :: pieces => by
    simp only [relabelPieces, nodesOfPieces, List.map_cons, List.map_append, renamePiece,
      relabelArguments_eq_map, nodesOfArguments_rename arguments, nodesOfPieces_rename pieces]

theorem nodesOfArguments_rename : (es : List (Expression α)) →
    nodesOfArguments (es.map (rename ρ)) = (nodesOfArguments es).map (renamePiece ρ)
  | [] => rfl
  | e :: es => by
    simp only [List.map_cons, nodesOfArguments, List.map_append, nodes_rename e,
      nodesOfArguments_rename es]

end

theorem raw_rename (e : Expression α) : (e.rename ρ).raw = e.raw := raw_relabel _ e ()

theorem placedFrom_rename (n : Nat) (es : List (Expression α)) :
    placedFrom n (es.map (rename ρ)) =
      (placedFrom n es).map fun placed => (placed.1, placed.2.rename ρ) := by
  induction es generalizing n with
  | nil => rfl
  | cons e es ih => simp only [List.map_cons, placedFrom, raw_rename, ih]

theorem placedArguments_rename (piece : Piece α) :
    (renamePiece ρ piece).placedArguments =
      piece.placedArguments.map fun placed => (placed.1, placed.2.rename ρ) := by
  cases piece with
  | text | var => rfl
  | call key callee arguments position => exact placedFrom_rename ρ _ arguments

/-- Where a renamed tree has an argument, the tree has the argument that is renamed to it. -/
theorem exists_of_rename {e : Expression α} {node : Piece β} (hn : node ∈ (e.rename ρ).nodes)
    {n : Nat} {a : Expression β} (ha : (n, a) ∈ node.placedArguments) :
    ∃ node₀ ∈ e.nodes, ∃ a₀, (n, a₀) ∈ node₀.placedArguments ∧ a₀.rename ρ = a := by
  rw [nodes_rename] at hn
  rcases List.mem_map.mp hn with ⟨node₀, hn₀, rfl⟩
  rw [placedArguments_rename] at ha
  rcases List.mem_map.mp ha with ⟨⟨k, a₀⟩, ha₀, heq⟩
  cases heq
  exact ⟨node₀, hn₀, a₀, ha₀, rfl⟩

/-- An argument stands in a renamed tree, renamed, where it stands in the tree. -/
theorem mem_rename {e : Expression α} {node : Piece α} (hn : node ∈ e.nodes) {n : Nat}
    {a : Expression α} (ha : (n, a) ∈ node.placedArguments) :
    renamePiece ρ node ∈ (e.rename ρ).nodes ∧
      (n, a.rename ρ) ∈ (renamePiece ρ node).placedArguments := by
  rw [nodes_rename, placedArguments_rename]
  exact ⟨List.mem_map_of_mem hn, List.mem_map_of_mem (f := fun placed => (placed.1, _)) ha⟩

end Nodes

end Expression

/-! ## Blueprints -/

/-- An instance without its number: its routine, its state and the number that it has in common with
its family. -/
structure Content where
  routine : Routine
  state : routine.State
  shared : UInt64

/-- A new instance of a routine without its number. -/
def Routine.content (routine : Routine) : Content := ⟨routine, routine.initial, 0⟩

/-- An instance of the store without its number. -/
def Store.content? (store : Store) (id : InstanceId) : Option Content :=
  (store.get? id).map fun inst => ⟨inst.routine, inst.state, store.shared inst.family⟩

/-- What instances that are awaited have in them. -/
theorem Store.Awaits.contents {store : Store} {i j : Nat} {routines : List Routine}
    (h : store.Awaits i j routines) :
    (List.range' i routines.length).map store.content? =
      routines.map fun routine => some routine.content := by
  induction routines generalizing i j with
  | nil => rfl
  | cons routine routines ih =>
    rcases h with ⟨hi, hj, hrest⟩
    have hcontent : store.content? i = some routine.content := by
      rw [content?, hi, Option.map_some, hj, Routine.content]
    rw [List.length_cons, List.range'_succ, List.map_cons, List.map_cons, ih hrest, hcontent]

namespace Expression

/-- A live expression with the routines and states of its instances at its calls. -/
def blueprint (e : LiveExpression) (store : Store) : Expression (Option Content) :=
  e.rename store.content?

/-- The blueprint of a compiled tree does not depend on the store that it was compiled in. -/
theorem blueprint_instantiate (e : Expression Routine) (store : Store) :
    (e.instantiate store).1.blueprint (e.instantiate store).2 =
      e.rename fun routine => some routine.content := by
  let create := fun routine (store : Store) => store.create routine
  have hstore : (e.instantiate store).2 = store.createAll e.callees := relabel_state create e store
  have hcallees : (relabelAll create e.callees store).1 =
      List.range' store.instances.size e.callees.length := by
    rw [← callees_relabel]
    exact (callees_instantiate e store).1
  have hcontents := (store.awaits_createAll e.callees).contents
  rw [← hcallees] at hcontents
  have hrename := relabel_eq_rename (f := renamed create (store.createAll e.callees).content?)
    (fun routine => some routine.content) e (s := store)
    (by rw [relabelAll_renamed, hcontents])
  rw [relabel_rename] at hrename
  rw [blueprint, hstore]
  exact hrename

end Expression

end TextTemplate
