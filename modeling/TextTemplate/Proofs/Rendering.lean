import TextTemplate.Proofs.BadPrefixes
import TextTemplate.Proofs.Concatenation
import TextTemplate.Proofs.Instances
import TextTemplate.Proofs.OwnState

/-!
# Rendering

What a text renders to does not depend on the machine, as long as no routine draws from the
generator, and texts one after the other render to what they render to apart.

* `Expression.firstValue` is the value of a tree when all of its calls are the first of their
  instances, and `Engine.render_eq` says that rendering gives it.
* `Engine.compile_append`: compiling and rendering are homomorphisms for texts of which the first
  one compiles and does not end with a `$` or a backslash.
-/

namespace TextTemplate

universe u v w

/-! ## First values -/

/-- The result of the first call of an instance, which is no text if it fails. -/
def Routine.firstResult (routine : Routine) (scene : Scene) (arguments : List String) : String :=
  match (routine.run ⟨scene, arguments, 0, ⟨0⟩⟩ routine.initial).result with
  | .ok value => value
  | .error _ => ""

namespace Expression

mutual

/-- The value of an expression when all of its calls are the first of their instances. -/
def firstValue (scene : Scene) : Expression Routine → String
  | ⟨_, pieces, _⟩ => firstValueOfPieces scene pieces

/-- The value of pieces. -/
def firstValueOfPieces (scene : Scene) : List (Piece Routine) → String
  | [] => ""
  | .text content :: pieces => content ++ firstValueOfPieces scene pieces
  | .var name _ :: pieces => scene.context.valueOf name ++ firstValueOfPieces scene pieces
  | .call _ routine arguments _ :: pieces =>
    routine.firstResult scene (firstValues scene arguments) ++ firstValueOfPieces scene pieces

/-- The values of arguments. -/
def firstValues (scene : Scene) : List (Expression Routine) → List String
  | [] => []
  | e :: es => firstValue scene e :: firstValues scene es

end

end Expression

/-! ## New instances -/

namespace Store

/-- The instances from number `i` on are new ones of these routines, and so are their families from
number `j` on. -/
def Awaits (store : Store) : (i j : Nat) → List Routine → Prop
  | _, _, [] => True
  | i, j, routine :: routines =>
    store.get? i = some ⟨routine, routine.initial, j⟩ ∧ store.shared j = 0 ∧
      Awaits store (i + 1) (j + 1) routines

/-- What is awaited does not depend on the instances before. -/
theorem Awaits.congr {store store' : Store} {i j : Nat} {routines : List Routine}
    (h : store.Awaits i j routines) (hget : ∀ id, i ≤ id → store'.get? id = store.get? id)
    (hshared : ∀ family, j ≤ family → store'.shared family = store.shared family) :
    store'.Awaits i j routines := by
  induction routines generalizing i j with
  | nil => trivial
  | cons routine routines ih =>
    rcases h with ⟨hi, hj, hrest⟩
    refine ⟨?_, ?_, ih hrest (fun id hid => hget id (by omega)) fun f hf => hshared f (by omega)⟩
    · rw [hget i (Nat.le_refl i), hi]
    · rw [hshared j (Nat.le_refl j), hj]

/-- Creates instances of routines. -/
def createAll (store : Store) (routines : List Routine) : Store :=
  (Expression.relabelAll (fun routine store => store.create routine) routines store).2

theorem get?_createAll_of_lt (store : Store) (routines : List Routine) {id : InstanceId}
    (h : id < store.instances.size) : (store.createAll routines).get? id = store.get? id := by
  induction routines generalizing store with
  | nil => rfl
  | cons routine routines ih =>
    have hsize : id < (store.create routine).2.instances.size := by
      rw [size_create]
      exact Nat.lt_succ_of_lt h
    exact (ih _ hsize).trans (get?_create_of_lt store routine h)

theorem shared_createAll (store : Store) (routines : List Routine) (family : Nat) :
    (store.createAll routines).shared family = store.shared family := by
  induction routines generalizing store with
  | nil => rfl
  | cons routine routines ih => exact (ih _).trans (shared_create store routine family)

/-- Instances are created at the end of the store. -/
theorem awaits_createAll (store : Store) (routines : List Routine) :
    (store.createAll routines).Awaits store.instances.size store.families.size routines := by
  induction routines generalizing store with
  | nil => trivial
  | cons routine routines ih =>
    have hlt : store.instances.size < (store.create routine).2.instances.size := by simp
    have hrest := ih (store.create routine).2
    rw [size_create, families_size_create] at hrest
    refine ⟨?_, ?_, hrest⟩
    · exact (get?_createAll_of_lt _ routines hlt).trans (get?_create_self store routine)
    · rw [shared_createAll]
      exact store.shared_size

end Store

/-- Executing the instance that is awaited first gives the result of a first call, and the rest is
awaited afterwards. -/
theorem Machine.execute_awaited {m : Machine} {i j : Nat} {routine : Routine}
    {routines : List Routine} (h : m.store.Awaits i j (routine :: routines))
    (hr : routine.IgnoresEntropy) (scene : Scene) (arguments : List String) (key : String)
    (position : Nat) :
    (contribution key position (m.execute scene i arguments).1
        (m.execute scene i arguments).2).1 = routine.firstResult scene arguments ∧
      (m.execute scene i arguments).2.store.Awaits (i + 1) (j + 1) routines := by
  rcases h with ⟨hi, hj, hrest⟩
  have hresult : (m.execute scene i arguments).1 =
      (routine.run ⟨scene, arguments, 0, ⟨0⟩⟩ routine.initial).result := by
    simp only [execute, hi, hj]
    exact hr ⟨scene, arguments, 0, ⟨0⟩⟩ m.entropy routine.initial
  constructor
  · unfold Routine.firstResult
    rw [hresult]
    cases (routine.run ⟨scene, arguments, 0, ⟨0⟩⟩ routine.initial).result <;> rfl
  · -- The instance and its family are changed, and neither of them is awaited any more.
    simp only [execute, hi]
    apply hrest.congr
    · intro id hid
      exact Store.get?_update_of_ne m.store (Nat.ne_of_lt hid) _ _
    · intro family hf
      have hne : j ≠ family := by omega
      exact Store.shared_update_of_ne m.store i hne _

namespace Expression

variable (scene : Scene)

-- The instances of a tree are awaited in the order in which its calls are executed: at every call,
-- the one that is awaited first is its own.
mutual

/-- The first evaluation of a compiled tree. -/
theorem evaluate_instantiate : (e : Expression Routine) → (store : Store) → {m : Machine} →
    {rest : List Routine} → (∀ routine ∈ e.callees, routine.IgnoresEntropy) →
    m.store.Awaits store.instances.size store.families.size (e.callees ++ rest) →
    ((e.instantiate store).1.evaluate scene m).1 = e.firstValue scene ∧
      ((e.instantiate store).1.evaluate scene m).2.2.store.Awaits
        (e.instantiate store).2.instances.size (e.instantiate store).2.families.size rest
  | ⟨raw, pieces, cache⟩, store, m, rest, hr, h => by
    have hc : cache.vacate.text? = none := by cases cache <;> rfl
    rcases evaluatePieces_instantiate pieces store hr h with ⟨hv, hm⟩
    simp only [instantiate, relabel, evaluate_of_unfilled _ _ _ hc, remember_store, firstValue]
    exact ⟨hv, hm⟩

theorem evaluatePieces_instantiate : (pieces : List (Piece Routine)) → (store : Store) →
    {m : Machine} → {rest : List Routine} →
    (∀ routine ∈ calleesOfPieces pieces, routine.IgnoresEntropy) →
    m.store.Awaits store.instances.size store.families.size (calleesOfPieces pieces ++ rest) →
    let copy := relabelPieces (fun routine (store : Store) => store.create routine) pieces store
    (evaluatePieces scene copy.1 m).1 = firstValueOfPieces scene pieces ∧
      (evaluatePieces scene copy.1 m).2.2.store.Awaits copy.2.instances.size copy.2.families.size
        rest
  | [], _, _, _, _, h => ⟨rfl, h⟩
  | .text content :: pieces, store, m, rest, hr, h => by
    rcases evaluatePieces_instantiate pieces store hr h with ⟨hv, hm⟩
    simp only [relabelPieces, evaluatePieces, firstValueOfPieces, hv, true_and]
    exact hm
  | .var name position :: pieces, store, m, rest, hr, h => by
    rcases evaluatePieces_instantiate pieces store hr h with ⟨hv, hm⟩
    simp only [relabelPieces, evaluatePieces, firstValueOfPieces, hv, true_and]
    exact hm
  | .call key routine arguments position :: pieces, store, m, rest, hr, h => by
    simp only [calleesOfPieces, List.mem_append, List.mem_cons, List.append_assoc,
      List.cons_append] at hr h
    -- After the arguments, the instance of the call is awaited first.
    rcases evaluateArguments_instantiate arguments store (fun r hm => hr r (.inl hm)) h
      with ⟨hvs, hargs⟩
    rcases Machine.execute_awaited hargs (hr routine (.inr (.inl rfl))) scene
      (firstValues scene arguments) key position with ⟨hv, hcall⟩
    rw [← contribution_store key position, ← Store.size_create _ routine,
      ← Store.families_size_create _ routine] at hcall
    rcases evaluatePieces_instantiate pieces _ (fun r hm => hr r (.inr (.inr hm))) hcall
      with ⟨hps, hpieces⟩
    simp only [relabelPieces, evaluatePieces, firstValueOfPieces, hvs]
    exact ⟨by rw [← hv, ← hps]; rfl, hpieces⟩

theorem evaluateArguments_instantiate : (es : List (Expression Routine)) → (store : Store) →
    {m : Machine} → {rest : List Routine} →
    (∀ routine ∈ calleesOfArguments es, routine.IgnoresEntropy) →
    m.store.Awaits store.instances.size store.families.size (calleesOfArguments es ++ rest) →
    let copy := relabelArguments (fun routine (store : Store) => store.create routine) es store
    (evaluateArguments scene copy.1 m).1 = firstValues scene es ∧
      (evaluateArguments scene copy.1 m).2.2.store.Awaits copy.2.instances.size
        copy.2.families.size rest
  | [], _, _, _, _, h => ⟨rfl, h⟩
  | e :: es, store, m, rest, hr, h => by
    simp only [calleesOfArguments, List.mem_append, List.append_assoc] at hr h
    rcases evaluate_instantiate e store (fun r hm => hr r (.inl hm)) h with ⟨hv, he⟩
    rcases evaluateArguments_instantiate es _ (fun r hm => hr r (.inr hm)) he with ⟨hvs, hm⟩
    simp only [instantiate] at hv hvs hm
    simp only [relabelArguments, evaluateArguments, firstValues, hv, hvs, true_and]
    exact hm

end

end Expression

/-- Rendering gives the value of the first evaluation, whatever there was before. -/
theorem Engine.render_eq {engine : Engine} {text : String} {tree : Expression Routine}
    (hp : parse engine.registry engine.config text = .ok tree)
    (hr : ∀ routine ∈ tree.callees, routine.IgnoresEntropy) (scene : Scene) (m : Machine) :
    (engine.render text scene m).1 = .ok (tree.firstValue scene) := by
  have hawaits : (tree.instantiate m.store).2.Awaits m.store.instances.size
      m.store.families.size (tree.callees ++ []) := by
    rw [List.append_nil, Expression.instantiate, Expression.relabel_state]
    exact m.store.awaits_createAll tree.callees
  have hvalue := (Expression.evaluate_instantiate scene tree m.store hr
    (m := { m.log (compilingRecord text) with store := (tree.instantiate m.store).2 }) hawaits).1
  simp only [render, compile, hp]
  exact congrArg Except.ok hvalue

/-! ## Texts one after the other -/

namespace Grammar

section Copies

variable {α : Type u} {β : Type v} {σ : Type w} (f : α → σ → β × σ) (n : Nat)

open Expression

theorem relabelPieces_consText (t : String) (ps : List (Piece α)) (s : σ) :
    relabelPieces f (consText t ps) s =
      (consText t (relabelPieces f ps s).1, (relabelPieces f ps s).2) := by
  by_cases ht : t = ""
  · rw [ht, consText_empty, consText_empty]
  · cases ps with
    | nil => simp [consText, relabelPieces, ht]
    | cons p ps => cases p <;> simp [consText, relabelPieces, ht]

theorem relabelPieces_ne_nil {ps : List (Piece α)} (h : ps ≠ []) (s : σ) :
    (relabelPieces f ps s).1 ≠ [] := by
  cases ps with
  | nil => exact absurd rfl h
  | cons p ps => cases p <;> exact List.cons_ne_nil _ _

/-- To copy pieces that are joined is to join copies, the latter ones made after the others. -/
theorem relabelPieces_joinPieces (ps qs : List (Piece α)) (s : σ) :
    relabelPieces f (joinPieces ps qs) s =
      (joinPieces (relabelPieces f ps s).1 (relabelPieces f qs (relabelPieces f ps s).2).1,
        (relabelPieces f qs (relabelPieces f ps s).2).2) := by
  induction ps generalizing s with
  | nil => rfl
  | cons p ps ih =>
    cases p with
    | text t =>
      -- Only the last of the texts can join the others.
      by_cases hps : ps = []
      · rw [hps]
        exact relabelPieces_consText f t qs s
      · rw [joinPieces_text_of_ne_nil t hps]
        simp only [relabelPieces, ih, joinPieces_text_of_ne_nil t (relabelPieces_ne_nil f hps s)]
    | var name position =>
      rw [joinPieces_cons_of_isDynamic rfl]
      simp only [relabelPieces, ih]
      rw [joinPieces_cons_of_isDynamic rfl]
    | call key callee arguments position =>
      rw [joinPieces_cons_of_isDynamic rfl]
      simp only [relabelPieces, ih]
      rw [joinPieces_cons_of_isDynamic rfl]

mutual

/-- Where a tree stands makes no difference to a copy of it. -/
theorem relabel_transfer : (e : Expression α) → (s : σ) →
    (e.transfer id n).relabel f s = ((e.relabel f s).1.transfer id n, (e.relabel f s).2)
  | ⟨_, pieces, _⟩, s => by
    simp only [Expression.transfer, relabel, relabelPieces_transfer pieces s, id]

theorem relabelPieces_transfer : (pieces : List (Piece α)) → (s : σ) →
    relabelPieces f (transferPieces id n pieces) s =
      (transferPieces id n (relabelPieces f pieces s).1, (relabelPieces f pieces s).2)
  | [], _ => rfl
  | .text _ :: pieces, s => by
    simp only [transferPieces, Piece.transfer, relabelPieces, relabelPieces_transfer pieces s]
  | .var _ _ :: pieces, s => by
    simp only [transferPieces, Piece.transfer, relabelPieces, relabelPieces_transfer pieces s]
  | .call _ _ arguments _ :: pieces, s => by
    simp only [transferPieces, Piece.transfer, relabelPieces,
      relabelArguments_transfer arguments s, relabelPieces_transfer pieces]

theorem relabelArguments_transfer : (es : List (Expression α)) → (s : σ) →
    relabelArguments f (transferArguments id n es) s =
      (transferArguments id n (relabelArguments f es s).1, (relabelArguments f es s).2)
  | [], _ => rfl
  | e :: es, s => by
    simp only [transferArguments, relabelArguments, relabel_transfer e s,
      relabelArguments_transfer es]

end

/-! ### What stands at the calls -/

theorem calleesOfPieces_consText (t : String) (ps : List (Piece α)) :
    calleesOfPieces (consText t ps) = calleesOfPieces ps := by
  by_cases ht : t = ""
  · rw [ht, consText_empty]
  · cases ps with
    | nil => simp [consText, calleesOfPieces, ht]
    | cons p ps => cases p <;> simp [consText, calleesOfPieces, ht]

theorem calleesOfPieces_joinPieces (ps qs : List (Piece α)) :
    calleesOfPieces (joinPieces ps qs) = calleesOfPieces ps ++ calleesOfPieces qs := by
  fun_induction joinPieces ps qs with
  | case1 qs => rfl
  | case2 t qs => exact calleesOfPieces_consText t qs
  | case3 p ps qs _ ih => cases p <;> simp [calleesOfPieces, ih]

mutual

theorem callees_transfer : (e : Expression α) → (e.transfer id n).callees = e.callees
  | ⟨_, pieces, _⟩ => by
    simp only [Expression.transfer, callees, calleesOfPieces_transfer pieces]

theorem calleesOfPieces_transfer : (pieces : List (Piece α)) →
    calleesOfPieces (transferPieces id n pieces) = calleesOfPieces pieces
  | [] => rfl
  | .text _ :: pieces => by
    simp only [transferPieces, Piece.transfer, calleesOfPieces, calleesOfPieces_transfer pieces]
  | .var _ _ :: pieces => by
    simp only [transferPieces, Piece.transfer, calleesOfPieces, calleesOfPieces_transfer pieces]
  | .call _ _ arguments _ :: pieces => by
    simp only [transferPieces, Piece.transfer, calleesOfPieces,
      calleesOfArguments_transfer arguments, calleesOfPieces_transfer pieces]

theorem calleesOfArguments_transfer : (es : List (Expression α)) →
    calleesOfArguments (transferArguments id n es) = calleesOfArguments es
  | [] => rfl
  | e :: es => by
    simp only [transferArguments, calleesOfArguments, callees_transfer e,
      calleesOfArguments_transfer es]

end

end Copies

/-! ### Values -/

section Values

open Expression

variable (scene : Scene) (n : Nat)

theorem firstValueOfPieces_consText (t : String) (ps : List (Piece Routine)) :
    firstValueOfPieces scene (consText t ps) = t ++ firstValueOfPieces scene ps := by
  by_cases ht : t = ""
  · rw [ht, consText_empty, String.empty_append]
  · cases ps with
    | nil => simp [consText, firstValueOfPieces, ht]
    | cons p ps => cases p <;> simp [consText, firstValueOfPieces, ht, String.append_assoc]

theorem firstValueOfPieces_joinPieces (ps qs : List (Piece Routine)) :
    firstValueOfPieces scene (joinPieces ps qs) =
      firstValueOfPieces scene ps ++ firstValueOfPieces scene qs := by
  fun_induction joinPieces ps qs with
  | case1 qs => rw [firstValueOfPieces, String.empty_append]
  | case2 t qs => simp [firstValueOfPieces_consText, firstValueOfPieces]
  | case3 p ps qs _ ih => cases p <;> simp [firstValueOfPieces, ih, String.append_assoc]

mutual

/-- Where a tree stands makes no difference to its value. -/
theorem firstValue_transfer : (e : Expression Routine) →
    (e.transfer id n).firstValue scene = e.firstValue scene
  | ⟨_, pieces, _⟩ => by
    simp only [Expression.transfer, firstValue, firstValueOfPieces_transfer pieces]

theorem firstValueOfPieces_transfer : (pieces : List (Piece Routine)) →
    firstValueOfPieces scene (transferPieces id n pieces) = firstValueOfPieces scene pieces
  | [] => rfl
  | .text _ :: pieces => by
    simp only [transferPieces, Piece.transfer, firstValueOfPieces,
      firstValueOfPieces_transfer pieces]
  | .var _ _ :: pieces => by
    simp only [transferPieces, Piece.transfer, firstValueOfPieces,
      firstValueOfPieces_transfer pieces]
  | .call _ _ arguments _ :: pieces => by
    simp only [transferPieces, Piece.transfer, firstValueOfPieces,
      firstValues_transfer arguments, firstValueOfPieces_transfer pieces]

theorem firstValues_transfer : (es : List (Expression Routine)) →
    firstValues scene (transferArguments id n es) = firstValues scene es
  | [] => rfl
  | e :: es => by
    simp only [transferArguments, firstValues, firstValue_transfer e, firstValues_transfer es]

end

end Values

end Grammar

theorem Engine.compile_eq_of_parse {engine : Engine} {text : String} {tree : Expression Routine}
    (hp : parse engine.registry engine.config text = .ok tree) (m : Machine) :
    (engine.compile text m).1 = .ok (tree.instantiate m.store).1 ∧
      (engine.compile text m).2.store = (tree.instantiate m.store).2 := by
  simp [compile, hp, Machine.log, Machine.append]

theorem Cache.vacate_fresh (enabled : Bool) : (Cache.fresh enabled).vacate = .fresh enabled := by
  cases enabled <;> rfl

open Grammar in
/-- A text that compiles and does not end with a `$` or a backslash, with another text after it:
the one compiles exactly if the other does, to the pieces of both with the latter moved on, or with
its error moved on. Unless routines draw from the generator, what they render to is put together. -/
theorem Engine.compile_append {engine : Engine} {a : String} {m : Machine} {e : LiveExpression}
    (ha : (engine.compile a m).1 = .ok e) (hlast : ∀ c ∈ a.toList.getLast?, c ≠ '\\' ∧ c ≠ '$')
    (b : String) :
    (∀ m₁ m₂, (∃ f, (engine.compile (a ++ b) m₁).1 = .ok f) ↔
      ∃ f, (engine.compile b m₂).1 = .ok f) ∧
    (∀ f, (engine.compile b (engine.compile a m).2).1 = .ok f →
      (engine.compile (a ++ b) m).1 = .ok ⟨a ++ b,
        joinPieces e.pieces (transferPieces id (utf8Width a.toList) f.pieces),
        Cache.fresh engine.config.staticCaching⟩ ∧
      (engine.compile (a ++ b) m).2.store =
        (engine.compile b (engine.compile a m).2).2.store) ∧
    (∀ m₁ m₂ error, (engine.compile b m₂).1 = .error error →
      (engine.compile (a ++ b) m₁).1 = .error (error.shift (utf8Width a.toList))) ∧
    ∀ whole, parse engine.registry engine.config (a ++ b) = .ok whole →
      (∀ routine ∈ whole.callees, routine.IgnoresEntropy) →
      ∀ scene m₁ m₂ m₃, ∃ x y, (engine.render a scene m₁).1 = .ok x ∧
        (engine.render b scene m₂).1 = .ok y ∧
        (engine.render (a ++ b) scene m₃).1 = .ok (x ++ y) := by
  rcases (compile_eq_ok_iff_parse engine a m e).mp ha with ⟨⟨raw, ps, cache⟩, hpa, rfl⟩
  have hp := parse_append_eq hpa hlast b
  cases hpb : parse engine.registry engine.config b with
  | error error =>
    rw [hpb] at hp
    have herror : ∀ m₁, (engine.compile (a ++ b) m₁).1 = .error (error.shift _) :=
      fun m₁ => compile_eq_error_iff.mpr hp
    have herror' : ∀ m₂, (engine.compile b m₂).1 = .error error :=
      fun m₂ => compile_eq_error_iff.mpr hpb
    refine ⟨fun m₁ m₂ => ?_, fun f hf => ?_, fun m₁ m₂ error' h => ?_, fun whole hw => ?_⟩
    · rw [herror, herror']
      exact ⟨nofun, nofun⟩
    · rw [herror'] at hf
      cases hf
    · rw [herror'] at h
      cases h
      exact herror m₁
    · rw [hp] at hw
      cases hw
  | ok t =>
    rcases t with ⟨raw', qs, cache'⟩
    rw [hpb] at hp
    have hsuccess := compile_eq_of_parse hp
    have hsuccess' := compile_eq_of_parse hpb
    refine ⟨fun m₁ m₂ => ?_, fun f hf => ?_, fun m₁ m₂ error h => ?_, fun whole hw hr => ?_⟩
    · exact ⟨fun _ => ⟨_, (hsuccess' m₂).1⟩, fun _ => ⟨_, (hsuccess m₁).1⟩⟩
    · -- The instances of the second text are created after those of the first.
      rw [(hsuccess' _).1, (compile_eq_of_parse hpa m).2] at hf
      cases hf
      rw [(hsuccess m).1, (hsuccess m).2, (hsuccess' _).2, (compile_eq_of_parse hpa m).2]
      simp only [Expression.instantiate, Expression.relabel, relabelPieces_joinPieces,
        relabelPieces_transfer, Cache.vacate_fresh, and_self]
    · rw [(hsuccess' m₂).1] at h
      cases h
    · intro scene m₁ m₂ m₃
      rw [hp] at hw
      cases hw
      have hr' := hr
      simp only [Expression.callees, calleesOfPieces_joinPieces, calleesOfPieces_transfer,
        List.mem_append] at hr'
      have hx := render_eq hpa (fun routine h => hr' routine (.inl h)) scene m₁
      have hy := render_eq hpb (fun routine h => hr' routine (.inr h)) scene m₂
      refine ⟨_, _, hx, hy, ?_⟩
      rw [render_eq hp hr]
      simp only [Expression.firstValue, firstValueOfPieces_joinPieces,
        firstValueOfPieces_transfer]

open Session in
/-- Two literals where the texts meet, and calls on both sides. -/
theorem Engine.compile_append_tally :
    (tallyEngine.compile ("$\x7btally\x7dé" ++ "b$\x7btally\x7d") { entropy := ⟨0⟩ }).1 =
        .ok ⟨"$\x7btally\x7déb$\x7btally\x7d",
          [.call "tally" 0 [] 0, .text "éb", .call "tally" 1 [] 11], .vacant⟩ ∧
      (tallyEngine.compile ("$\x7btally\x7dé" ++ "b$\x7btally") { entropy := ⟨0⟩ }).1 =
        .error (.unterminatedReference 11) ∧
      ∀ scene m, (tallyEngine.render ("$\x7btally\x7dé" ++ "b$\x7btally\x7d") scene m).1 =
        .ok "1éb1" := by
  have hpa : parse tallyEngine.registry tallyEngine.config "$\x7btally\x7dé" =
      .ok ⟨"$\x7btally\x7dé", [.call "tally" Library.Samples.tally [] 0, .text "é"], .vacant⟩ := rfl
  have hpb : parse tallyEngine.registry tallyEngine.config "b$\x7btally\x7d" =
      .ok ⟨"b$\x7btally\x7d", [.text "b", .call "tally" Library.Samples.tally [] 1], .vacant⟩ := rfl
  have hpb' : parse tallyEngine.registry tallyEngine.config "b$\x7btally" =
      .error (.unterminatedReference 1) := rfl
  have hlast : ∀ c ∈ ("$\x7btally\x7dé" : String).toList.getLast?, c ≠ '\\' ∧ c ≠ '$' := by simp
  have ha := (Engine.compile_eq_of_parse hpa { entropy := ⟨0⟩ }).1
  rcases Engine.compile_append ha hlast "b$\x7btally\x7d" with ⟨-, hsuccess, -, hrender⟩
  rcases Engine.compile_append ha hlast "b$\x7btally" with ⟨-, -, hfailure, -⟩
  have hb := (Engine.compile_eq_of_parse hpb
    (tallyEngine.compile "$\x7btally\x7dé" { entropy := ⟨0⟩ }).2).1
  rw [(Engine.compile_eq_of_parse hpa _).2] at hb
  refine ⟨(hsuccess _ hb).1, hfailure _ { entropy := ⟨0⟩ } _ (Engine.compile_eq_error_iff.mpr hpb'),
    fun scene m => ?_⟩
  have hpab : parse tallyEngine.registry tallyEngine.config ("$\x7btally\x7dé" ++ "b$\x7btally\x7d") =
      .ok ⟨"$\x7btally\x7déb$\x7btally\x7d", [.call "tally" Library.Samples.tally [] 0, .text "éb",
        .call "tally" Library.Samples.tally [] 11], .vacant⟩ := rfl
  have htally : ∀ routine ∈ [Library.Samples.tally, Library.Samples.tally],
      routine.IgnoresEntropy := by
    simp only [List.mem_cons, List.not_mem_nil, or_false, or_self, forall_eq]
    exact fun _ _ _ => rfl
  have hfirst : ∀ scene, Library.Samples.tally.firstResult scene [] = "1" := by
    intro scene
    show toString (0 + 1 : UInt64).toNat = "1"
    rfl
  rcases hrender _ hpab htally scene m m m with ⟨x, y, hx, hy, hxy⟩
  rw [Engine.render_eq hpa (fun r h => htally r (List.mem_cons_of_mem _ h))] at hx
  rw [Engine.render_eq hpb (fun r h => htally r (List.mem_cons_of_mem _ h))] at hy
  rw [hxy, ← Except.ok.inj hx, ← Except.ok.inj hy]
  simp only [Expression.firstValue, Expression.firstValueOfPieces, Expression.firstValues, hfirst]
  rfl

end TextTemplate
