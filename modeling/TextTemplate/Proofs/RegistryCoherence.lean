import TextTemplate.Proofs.CallCounts
import TextTemplate.Proofs.MentionedNames
import TextTemplate.Proofs.OctetOrder

/-!
# Coherence of registries

The three maps of a registry are written by different changes, and still fit together after any
operations.

* `Registry.Operation` is what can be done with a registry; a failing one may have changed it
  before it failed. `Registry.writes` are the changes that took place, each with the registry it
  found.
* `lookup_run`: a key calls what the last write to it bound.
* `Registry.Coherent`: a key is declared with the signature of what it calls, and aliases and
  their targets are registered. Every change keeps it (`Coherent.change`).
* `Registry.run_coherent` collects what follows from it for the listings of a registry and for the
  calls that compile with it.
-/

namespace TextTemplate

namespace Registry

/-! ## Operations -/

/-- What can be done with a registry. -/
inductive Operation where
  /-- Binds a routine to the key that it is known by. -/
  | register (routine : Routine)
  /-- Binds a routine to any key. -/
  | registerAs (key : String) (routine : Routine)
  /-- Binds a key to the routine of another one. -/
  | makeAlias (key target : String)
  /-- Makes all aliases of a configuration, up to the first that fails. -/
  | configure (config : RegistryConfig)

/-- The changes that an operation attempts. -/
def Operation.changes : Operation → List Change
  | register routine => [.register routine]
  | registerAs key routine => [.bind key routine]
  | makeAlias key target => [.makeAlias key target]
  | configure config => config.changes

/-- The registry after an operation, whether or not it succeeds. -/
def operate (r : Registry) (operation : Operation) : Registry :=
  (r.changeAll operation.changes).registry

/-- The registry after operations. -/
def run (r : Registry) : List Operation → Registry
  | [] => r
  | operation :: operations => (r.operate operation).run operations

/-! ## Writes -/

/-- A change that took place, and the registry that it found. -/
structure Write where
  before : Registry
  change : Change

/-- The key that was written. -/
def Write.key (w : Write) : String := w.change.key

/-- The routine that was bound; for an alias, what the target called at that moment. -/
def Write.routine? (w : Write) : Option Routine :=
  match w.change with
  | .bind _ routine => some routine
  | .makeAlias _ target => w.before.lookup target

/-- The changes that take place, up to the first that fails. -/
def writesOf (r : Registry) : List Change → List Write
  | [] => []
  | c :: cs =>
    match r.change c with
    | .error _ => []
    | .ok next => ⟨r, c⟩ :: next.writesOf cs

/-- The changes that take place in the course of operations. -/
def writes (r : Registry) : List Operation → List Write
  | [] => []
  | operation :: operations =>
    r.writesOf operation.changes ++ (r.operate operation).writes operations

/-- The last write to a key. -/
def lastWrite? (ws : List Write) (key : String) : Option Write :=
  (ws.filter (·.key = key)).getLast?

theorem lastWrite?_append (ws ws' : List Write) (key : String) :
    lastWrite? (ws ++ ws') key = (lastWrite? ws' key).or (lastWrite? ws key) := by
  rw [lastWrite?, List.filter_append, List.getLast?_append]
  rfl

/-- What a key calls after writes. -/
def boundBy (ws : List Write) (key : String) (before : Option Routine) : Option Routine :=
  match lastWrite? ws key with
  | some w => w.routine?
  | none => before

theorem boundBy_append (ws ws' : List Write) (key : String) (before : Option Routine) :
    boundBy (ws ++ ws') key before = boundBy ws' key (boundBy ws key before) := by
  unfold boundBy
  rw [lastWrite?_append]
  cases lastWrite? ws' key <;> rfl

theorem boundBy_singleton (w : Write) (key : String) (before : Option Routine) :
    boundBy [w] key before = if w.key = key then w.routine? else before := by
  by_cases h : w.key = key <;> simp [boundBy, lastWrite?, h]

variable {r next : Registry} {c : Change}

theorem lookup_of_write (h : r.change c = .ok next) (key : String) :
    next.lookup key = boundBy [⟨r, c⟩] key (r.lookup key) := by
  rw [boundBy_singleton]
  cases c with
  | bind written routine => exact lookup_of_bind h key
  | makeAlias written target =>
    rw [lookup_of_makeAlias h]
    show r.lookup (if written = key then target else key) =
      if written = key then r.lookup target else r.lookup key
    split <;> rfl

theorem lookup_changeAll_boundBy (r : Registry) (cs : List Change) (key : String) :
    (r.changeAll cs).registry.lookup key = boundBy (r.writesOf cs) key (r.lookup key) := by
  induction cs generalizing r with
  | nil => rfl
  | cons c cs ih =>
    unfold changeAll writesOf
    cases hc : r.change c with
    | error e => rfl
    | ok next =>
      have happend : (⟨r, c⟩ :: next.writesOf cs : List Write) = [⟨r, c⟩] ++ next.writesOf cs := rfl
      simp only [happend, boundBy_append]
      rw [← lookup_of_write hc]
      exact ih next

/-- A key calls what the last write to it bound. -/
theorem lookup_run (r : Registry) (operations : List Operation) (key : String) :
    (r.run operations).lookup key = boundBy (r.writes operations) key (r.lookup key) := by
  induction operations generalizing r with
  | nil => rfl
  | cons operation operations ih =>
    rw [run, ih, writes, boundBy_append, ← lookup_changeAll_boundBy]
    rfl

/-- Every write binds a routine. -/
theorem isSome_of_write (h : r.change c = .ok next) : (Write.routine? ⟨r, c⟩).isSome = true := by
  cases c with
  | bind key routine => rfl
  | makeAlias key target =>
    cases ht : r.lookup target with
    | none => simp [change, ht] at h
    | some routine => simp [Write.routine?, ht]

theorem isSome_of_mem_writesOf (r : Registry) (cs : List Change) :
    ∀ w ∈ r.writesOf cs, w.routine?.isSome = true := by
  induction cs generalizing r with
  | nil => exact nofun
  | cons c cs ih =>
    unfold writesOf
    cases hc : r.change c with
    | error e => exact nofun
    | ok next => exact List.forall_mem_cons.mpr ⟨isSome_of_write hc, ih next⟩

theorem isSome_of_mem_writes (r : Registry) (operations : List Operation) :
    ∀ w ∈ r.writes operations, w.routine?.isSome = true := by
  induction operations generalizing r with
  | nil => exact nofun
  | cons operation operations ih =>
    exact List.forall_mem_append.mpr ⟨isSome_of_mem_writesOf r _, ih _⟩

theorem isSome_lastWrite?_bind {ws : List Write} (h : ∀ w ∈ ws, w.routine?.isSome = true)
    (key : String) :
    ((lastWrite? ws key).bind Write.routine?).isSome = true ↔ ∃ w ∈ ws, w.key = key := by
  cases hl : lastWrite? ws key with
  | none =>
    have hnone : ws.filter (·.key = key) = [] := List.getLast?_eq_none_iff.mp hl
    simpa using hnone
  | some w =>
    have hw : w ∈ ws ∧ w.key = key := by
      simpa using List.mem_filter.mp (List.mem_of_getLast? hl)
    exact ⟨fun _ => ⟨w, hw⟩, fun _ => h w hw.1⟩

/-! ## Coherence -/

theorem signature_bind (r : Registry) (key other : String) (routine : Routine) :
    (r.bind key routine).signature other =
      if key = other then some routine.signature else r.signature other := by
  by_cases h : key = other <;> simp [signature, bind, Std.TreeMap.getElem?_insert, h]

theorem aliasTarget_bind (r : Registry) (key other : String) (routine : Routine) :
    (r.bind key routine).aliasTarget other =
      if key = other then none else r.aliasTarget other := by
  by_cases h : key = other <;> simp [aliasTarget, bind, Std.TreeMap.getElem?_erase, h]

theorem signature_bindAlias {target : String} {taken : Signature}
    (h : r.signature target = some taken) (key other : String) (routine : Routine) :
    (r.bindAlias key target routine).signature other =
      if key = other then some taken else r.signature other := by
  unfold signature bindAlias
  rw [h]
  by_cases hk : key = other <;> simp [Std.TreeMap.getElem?_insert, hk]

theorem aliasTarget_bindAlias (r : Registry) (key target other : String) (routine : Routine) :
    (r.bindAlias key target routine).aliasTarget other =
      if key = other then some target else r.aliasTarget other := by
  by_cases h : key = other <;> simp [aliasTarget, bindAlias, Std.TreeMap.getElem?_insert, h]

/-- An alias is made of a target that calls something. -/
theorem exists_of_makeAlias {key target : String}
    (h : r.change (.makeAlias key target) = .ok next) :
    ∃ routine, r.lookup target = some routine ∧ next = r.bindAlias key target routine := by
  cases ht : r.lookup target with
  | none => simp [change, ht] at h
  | some routine =>
    simp only [change, ht, Except.ok.injEq] at h
    exact ⟨routine, rfl, h.symm⟩

/-- Writing a key leaves what is registered registered. -/
theorem isSome_ite {key other : String} {routine : Routine} (h : (r.lookup other).isSome = true) :
    (if key = other then some routine else r.lookup other).isSome = true := by
  split
  · rfl
  · exact h

/-- The three maps of a registry fit together. -/
structure Coherent (r : Registry) : Prop where
  declared : ∀ key, r.signature key = (r.lookup key).map Routine.signature
  aliased : ∀ key target, r.aliasTarget key = some target →
    (r.lookup key).isSome = true ∧ (r.lookup target).isSome = true

namespace Coherent

theorem empty : Coherent .empty where
  declared key := by
    rw [lookup_empty]
    simp [Registry.signature, Registry.empty]
  aliased key target h := by simp [aliasTarget, Registry.empty] at h

theorem bind (h : r.Coherent) (key : String) (routine : Routine) :
    (r.bind key routine).Coherent where
  declared other := by
    rw [signature_bind, lookup_bind, h.declared]
    split <;> rfl
  aliased other target ht := by
    rw [aliasTarget_bind] at ht
    split at ht
    · cases ht
    · rw [lookup_bind, lookup_bind]
      exact ⟨isSome_ite (h.aliased other target ht).1, isSome_ite (h.aliased other target ht).2⟩

theorem bindAlias (h : r.Coherent) (key : String) {target : String} {routine : Routine}
    (htarget : r.lookup target = some routine) : (r.bindAlias key target routine).Coherent where
  declared other := by
    have htaken : r.signature target = some routine.signature := by
      rw [h.declared, htarget]
      rfl
    rw [signature_bindAlias htaken, lookup_bindAlias, h.declared]
    split <;> rfl
  aliased other target' ht := by
    rw [aliasTarget_bindAlias] at ht
    rw [lookup_bindAlias, lookup_bindAlias]
    split at ht
    · -- The new alias; it may be its own target.
      rename_i hk
      cases ht
      have hsome : (r.lookup target).isSome = true := by
        rw [htarget]
        rfl
      refine ⟨?_, isSome_ite hsome⟩
      rw [if_pos hk]
      rfl
    · exact ⟨isSome_ite (h.aliased other target' ht).1, isSome_ite (h.aliased other target' ht).2⟩

/-- A change that takes place keeps a registry coherent. -/
theorem change (h : r.Coherent) (hc : r.change c = .ok next) : next.Coherent := by
  cases c with
  | bind key routine =>
    cases hc
    exact h.bind key routine
  | makeAlias key target =>
    obtain ⟨routine, ht, rfl⟩ := exists_of_makeAlias hc
    exact h.bindAlias key ht

theorem changeAll (h : r.Coherent) (cs : List Change) : (r.changeAll cs).registry.Coherent := by
  induction cs generalizing r with
  | nil => exact h
  | cons c cs ih =>
    unfold Registry.changeAll
    cases hc : r.change c with
    | error e => exact h
    | ok next => exact ih (h.change hc)

/-- Registries stay coherent under all operations. -/
theorem run (h : r.Coherent) (operations : List Operation) : (r.run operations).Coherent := by
  induction operations generalizing r with
  | nil => exact h
  | cons operation operations ih => exact ih (h.changeAll operation.changes)

end Coherent

/-! ## Listings -/

/-- A listing is in the order of octets. -/
def InOctetOrder (keys : List String) : Prop :=
  keys.Pairwise fun key key' => Text.Utf8.encode key < Text.Utf8.encode key'

theorem mem_keys (r : Registry) (key : String) : key ∈ r.keys ↔ (r.lookup key).isSome = true := by
  rw [keys, lookup, Std.TreeMap.mem_keys, Std.TreeMap.mem_iff_isSome_getElem?]

theorem contains_eq_isSome (r : Registry) (key : String) :
    r.contains key = (r.lookup key).isSome :=
  Std.TreeMap.contains_eq_isSome_getElem?

theorem inOctetOrder_keys (r : Registry) : InOctetOrder r.keys := by
  refine List.Pairwise.imp ?_ Std.TreeMap.ordered_keys
  intro key key' h
  exact Text.Utf8.encode_lt_encode (compareOfLessAndEq_eq_lt.mp h)

theorem size_eq_length_keys (r : Registry) : r.size = r.keys.length :=
  Std.TreeMap.length_keys.symm

theorem mem_signatures (r : Registry) (key : String) (signature : Signature) :
    (key, signature) ∈ r.signatures ↔ r.signature key = some signature :=
  Std.TreeMap.mem_toList_iff_getElem?_eq_some

theorem mem_aliases (r : Registry) (key target : String) :
    (key, target) ∈ r.aliases ↔ r.aliasTarget key = some target :=
  Std.TreeMap.mem_toList_iff_getElem?_eq_some

/-- The keys with a declared signature are those that call something, in the same order. -/
theorem Coherent.map_fst_signatures (h : r.Coherent) : r.signatures.map Prod.fst = r.keys := by
  have hequiv : r.declared.Equiv (r.bindings.map fun _ routine => routine.signature) := by
    apply Std.TreeMap.Equiv.of_forall_constGet?_eq
    intro key
    rw [Std.TreeMap.getElem?_map]
    exact h.declared key
  rw [signatures, hequiv.toList_eq, Std.TreeMap.map_fst_toList_eq_keys, Std.TreeMap.keys_map]
  rfl

/-! ## Calls -/

/-- With a registry, calls compile with the numbers of arguments that are declared for their keys
and with no others. -/
structure CompilesAsDeclared (r : Registry) : Prop where
  /-- A call at any depth of a text that is parsed. -/
  within : ∀ (config : EngineConfig) (text : String) (tree : Expression Routine),
    parse r config text = .ok tree → ∀ key routine arguments position,
      .call key routine arguments position ∈ tree.nodes →
        ∃ signature, r.signature key = some signature ∧ signature.accepts arguments.length = true
  /-- A call by itself, with arguments that can be derived. -/
  call : ∀ (config : EngineConfig) (m : Machine) (key arguments : String) (us : List Grammar.Symbol)
    (es : List (Expression Routine)), 0 < config.maxNestingDepth →
    Grammar.IsIdentifier key.toList → Grammar.Splits arguments.toList us →
    Grammar.Arguments r config 1 (2 + utf8Width key.toList + 1) us es →
      ((∃ e, (Engine.compile { registry := r, config } (Grammar.callText key arguments) m).1 =
          .ok e) ↔
        ∃ signature, r.signature key = some signature ∧
          signature.accepts (Grammar.callArguments es).length = true)
  /-- A bare reference to a key that is registered. -/
  bare : ∀ (config : EngineConfig) (m : Machine) (key : String), 0 < config.maxNestingDepth →
    Grammar.IsIdentifier key.toList → key ∈ r.keys →
      ((∃ e, (Engine.compile { registry := r, config } (Grammar.bareText key) m).1 = .ok e) ↔
        ∃ signature, r.signature key = some signature ∧ signature.accepts 0 = true)

theorem exists_compile_iff_parse (engine : Engine) (text : String) (m : Machine) :
    (∃ e, (engine.compile text m).1 = .ok e) ↔
      ∃ tree, parse engine.registry engine.config text = .ok tree := by
  simp only [Grammar.compile_eq_ok_iff_parse]
  constructor
  · rintro ⟨e, tree, htree, -⟩
    exact ⟨tree, htree⟩
  · rintro ⟨tree, htree⟩
    exact ⟨_, tree, htree, rfl⟩

/-- What is declared for a key accepts a number of arguments if what the key calls does. -/
theorem Coherent.exists_signature_iff (h : r.Coherent) (key : String) (count : Nat) :
    (∃ signature, r.signature key = some signature ∧ signature.accepts count = true) ↔
      ∃ routine, r.lookup key = some routine ∧ routine.signature.accepts count = true := by
  rw [h.declared]
  cases r.lookup key <;> simp

theorem Coherent.compilesAsDeclared (h : r.Coherent) : r.CompilesAsDeclared where
  within config text tree htree key routine arguments position hn := by
    have hadmitted := Grammar.parse_admitted htree _ hn
    exact (h.exists_signature_iff key _).mpr ⟨routine, hadmitted⟩
  call config m key arguments us es hdepth hkey hs hes := by
    rw [exists_compile_iff_parse, h.exists_signature_iff]
    exact Grammar.parse_callText hdepth hkey hs hes
  bare config m key hdepth hkey hmem := by
    have hsome := (r.mem_keys key).mp hmem
    rw [exists_compile_iff_parse, h.exists_signature_iff, Grammar.parse_bareText hdepth hkey]
    constructor
    · rintro (hnone | hrest)
      · rw [hnone] at hsome
        cases hsome
      · exact hrest
    · exact Or.inr

/-- After any operations on a registry that was empty, the keys that call something, those with a
signature and those that are listed are the same, in the order of octets, each once and counted by
the size. Aliases and their targets are among them. A key calls what the last write to it bound,
if there was one; it is declared with the signature of what it calls, and compiles as declared. -/
theorem run_coherent (operations : List Operation) :
    let r := Registry.empty.run operations
    let ws := Registry.empty.writes operations
    (∀ key, key ∈ r.keys ↔ (r.lookup key).isSome = true) ∧
      (∀ key, r.contains key = (r.lookup key).isSome) ∧
      r.signatures.map Prod.fst = r.keys ∧
      InOctetOrder r.keys ∧ r.keys.Nodup ∧ r.size = r.keys.length ∧
      (∀ key target, (key, target) ∈ r.aliases ↔ r.aliasTarget key = some target) ∧
      (∀ key target, r.aliasTarget key = some target → key ∈ r.keys ∧ target ∈ r.keys) ∧
      (∀ key, r.lookup key = (lastWrite? ws key).bind Write.routine?) ∧
      (∀ key, key ∈ r.keys ↔ ∃ w ∈ ws, w.key = key) ∧
      (∀ key signature, (key, signature) ∈ r.signatures ↔ r.signature key = some signature) ∧
      (∀ key, r.signature key = (r.lookup key).map Routine.signature) ∧
      r.CompilesAsDeclared := by
  intro r ws
  have hcoherent : r.Coherent := Coherent.empty.run operations
  have hlookup : ∀ key, r.lookup key = (lastWrite? ws key).bind Write.routine? := by
    intro key
    rw [lookup_run, boundBy, lookup_empty]
    cases lastWrite? ws key <;> rfl
  have hwritten : ∀ key, key ∈ r.keys ↔ ∃ w ∈ ws, w.key = key := by
    intro key
    have hbound := isSome_lastWrite?_bind (isSome_of_mem_writes .empty operations) key
    rw [mem_keys, hlookup, hbound]
  refine ⟨r.mem_keys, r.contains_eq_isSome, hcoherent.map_fst_signatures, r.inOctetOrder_keys,
    Std.TreeMap.nodup_keys, r.size_eq_length_keys, r.mem_aliases, ?_, hlookup, hwritten,
    r.mem_signatures, hcoherent.declared, hcoherent.compilesAsDeclared⟩
  intro key target h
  rw [mem_keys, mem_keys]
  exact hcoherent.aliased key target h

end Registry

end TextTemplate
