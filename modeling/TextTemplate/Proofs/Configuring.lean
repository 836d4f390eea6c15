import TextTemplate.Proofs.AliasTargets

/-!
# Configuring a registry

The aliases of a configuration are made in order, up to the first whose target is no key by then.

* `Registry.Resolves` says when the target of an entry is a key by then: it was one before, or an
  earlier entry has its name. This does not look at the registries in between.
* `Registry.makeAliases_failure`: the aliases can be made exactly if all entries resolve.
* `Registry.changeAll_configuration` collects what is known of the outcome. A configuration that
  fails leaves what the entries before the first that does not resolve lead to.
-/

namespace TextTemplate

namespace Registry

variable {r next : Registry} {c : Change} {first : AliasEntry}

/-! ## One change -/

/-- A change makes its own key one, and keeps the others. -/
theorem mem_keys_of_change (h : r.change c = .ok next) (key : String) :
    key ∈ next.keys ↔ key ∈ r.keys ∨ key = c.key := by
  rw [mem_keys, mem_keys]
  by_cases hk : c.key = key
  · subst hk
    have hbound : next.lookup c.key = Write.routine? ⟨r, c⟩ := by
      rw [lookup_of_write h, boundBy_singleton]
      exact if_pos rfl
    rw [hbound, isSome_of_write h]
    simp
  · have hother : key ≠ c.key := Ne.symm hk
    rw [lookup_of_change h hk]
    simp [hother]

/-- A key calls the same in two registries, is declared alike and is the same alias, or none in
either. -/
structure SameAt (r r' : Registry) (key : String) : Prop where
  lookup : r'.lookup key = r.lookup key
  signature : r'.signature key = r.signature key
  aliasTarget : r'.aliasTarget key = r.aliasTarget key

theorem SameAt.refl (r : Registry) (key : String) : r.SameAt r key := ⟨rfl, rfl, rfl⟩

theorem SameAt.trans {r₁ r₂ r₃ : Registry} {key : String} (h : r₁.SameAt r₂ key)
    (h' : r₂.SameAt r₃ key) : r₁.SameAt r₃ key where
  lookup := h'.lookup.trans h.lookup
  signature := h'.signature.trans h.signature
  aliasTarget := h'.aliasTarget.trans h.aliasTarget

/-- An alias changes nothing at other keys, even if the signature of its target is not declared. -/
theorem signature_bindAlias_of_ne (r : Registry) {key other : String} (h : key ≠ other)
    (target : String) (routine : Routine) :
    (r.bindAlias key target routine).signature other = r.signature other := by
  unfold signature bindAlias
  cases r.signature target with
  | none => rfl
  | some taken => simp [Std.TreeMap.getElem?_insert, h]

theorem sameAt_of_change (h : r.change c = .ok next) {key : String} (hk : c.key ≠ key) :
    r.SameAt next key where
  lookup := lookup_of_change h hk
  aliasTarget := (aliasTarget_of_change h key).trans (if_neg hk)
  signature := by
    cases c with
    | bind written routine =>
      cases h
      exact (signature_bind r written key routine).trans (if_neg hk)
    | makeAlias written target =>
      obtain ⟨routine, -, rfl⟩ := exists_of_makeAlias h
      exact signature_bindAlias_of_ne r hk target routine

/-! ## Entries -/

/-- An alias can be made if its target is a key, or the name of an earlier entry. -/
def Resolves (r : Registry) (earlier : List AliasEntry) (entry : AliasEntry) : Prop :=
  entry.target ∈ r.keys ∨ entry.target ∈ earlier.map AliasEntry.name

/-- All aliases can be made, in order. -/
def AllResolve (r : Registry) (entries : List AliasEntry) : Prop :=
  ∀ i entry, entries[i]? = some entry → r.Resolves (entries.take i) entry

/-- What comes of making aliases, in order. -/
def makeAliases (r : Registry) (entries : List AliasEntry) : Changed :=
  r.changeAll (RegistryConfig.changes ⟨entries⟩)

/-- The change that makes an alias. -/
def changeOf (entry : AliasEntry) : Change := .makeAlias entry.name entry.target

theorem exists_change_of_mem (h : first.target ∈ r.keys) :
    ∃ next, r.change (changeOf first) = .ok next := by
  obtain ⟨routine, hroutine⟩ := Option.isSome_iff_exists.mp ((r.mem_keys _).mp h)
  refine ⟨r.bindAlias first.name first.target routine, ?_⟩
  simp only [changeOf, Registry.change, hroutine]

theorem change_of_not_mem (h : first.target ∉ r.keys) :
    r.change (changeOf first) = .error (.unknownAliasTarget first.name first.target) := by
  rw [mem_keys, Bool.not_eq_true, Option.isSome_eq_false_iff, Option.isNone_iff_eq_none] at h
  simp only [changeOf, Registry.change, h]

theorem makeAliases_of_ok (h : r.change (changeOf first) = .ok next) (rest : List AliasEntry) :
    r.makeAliases (first :: rest) =
      { next.makeAliases rest with
        log := (changeOf first).record :: (next.makeAliases rest).log } := by
  rw [changeOf] at h
  simp only [makeAliases, RegistryConfig.changes, List.map_cons, Registry.changeAll, h]
  rfl

theorem makeAliases_of_not_mem (h : first.target ∉ r.keys) (rest : List AliasEntry) :
    r.makeAliases (first :: rest) =
      { registry := r, log := [],
        failure := some (.unknownAliasTarget first.name first.target) } := by
  have hchange := change_of_not_mem h
  rw [changeOf] at hchange
  simp only [makeAliases, RegistryConfig.changes, List.map_cons, Registry.changeAll, hchange]

/-- Once the first alias is made, its name is a key like those before. -/
theorem resolves_cons (h : r.change (changeOf first) = .ok next) (earlier : List AliasEntry)
    (entry : AliasEntry) : r.Resolves (first :: earlier) entry ↔ next.Resolves earlier entry := by
  have hkeys := mem_keys_of_change h entry.target
  have hfirst : (changeOf first).key = first.name := rfl
  rw [hfirst] at hkeys
  rw [Resolves, Resolves, hkeys, List.map_cons, List.mem_cons, or_assoc]

theorem allResolve_nil (r : Registry) : r.AllResolve [] := by
  intro i entry h
  cases h

theorem allResolve_cons (h : r.change (changeOf first) = .ok next) (rest : List AliasEntry) :
    r.AllResolve (first :: rest) ↔ next.AllResolve rest := by
  constructor
  · intro hall i entry hi
    exact (resolves_cons h _ entry).mp (hall (i + 1) entry hi)
  · intro hall i entry hi
    cases i with
    | zero =>
      cases hi
      obtain ⟨routine, hroutine, -⟩ := exists_of_makeAlias h
      have hkey : first.target ∈ r.keys := by
        rw [mem_keys, hroutine]
        rfl
      exact .inl hkey
    | succ i => exact (resolves_cons h _ entry).mpr (hall i entry hi)

theorem resolves_nil (r : Registry) (entry : AliasEntry) :
    r.Resolves [] entry ↔ entry.target ∈ r.keys := by
  simp [Resolves]

/-! ## Outcomes -/

/-- The aliases can be made exactly if all of their entries resolve. -/
theorem makeAliases_failure (r : Registry) (entries : List AliasEntry) :
    (r.makeAliases entries).failure = none ↔ r.AllResolve entries := by
  induction entries generalizing r with
  | nil => exact ⟨fun _ => allResolve_nil r, fun _ => rfl⟩
  | cons first rest ih =>
    by_cases hkey : first.target ∈ r.keys
    · obtain ⟨next, hnext⟩ := exists_change_of_mem hkey
      rw [makeAliases_of_ok hnext, allResolve_cons hnext]
      exact ih next
    · rw [makeAliases_of_not_mem hkey]
      constructor
      · intro h
        cases h
      · intro hall
        have hfirst := (r.resolves_nil first).mp (hall 0 first rfl)
        exact absurd hfirst hkey

/-- When all aliases are made, their names are keys, and so are the keys before. -/
theorem mem_keys_makeAliases {entries : List AliasEntry} (h : r.AllResolve entries)
    (key : String) :
    key ∈ (r.makeAliases entries).registry.keys ↔
      key ∈ r.keys ∨ key ∈ entries.map AliasEntry.name := by
  induction entries generalizing r with
  | nil => simp [makeAliases, RegistryConfig.changes, Registry.changeAll]
  | cons first rest ih =>
    have hfirst := (r.resolves_nil first).mp (h 0 first rfl)
    obtain ⟨next, hnext⟩ := exists_change_of_mem hfirst
    have hkeys := mem_keys_of_change hnext key
    have hname : (changeOf first).key = first.name := rfl
    rw [hname] at hkeys
    rw [makeAliases_of_ok hnext]
    rw [ih ((allResolve_cons hnext rest).mp h), hkeys, List.map_cons, List.mem_cons, or_assoc]

/-- Whether or not all aliases are made, nothing changes but at their names. -/
theorem sameAt_makeAliases (r : Registry) {entries : List AliasEntry} {key : String}
    (h : key ∉ entries.map AliasEntry.name) : r.SameAt (r.makeAliases entries).registry key := by
  induction entries generalizing r with
  | nil => exact .refl r key
  | cons first rest ih =>
    rw [List.map_cons, List.mem_cons, not_or] at h
    by_cases hkey : first.target ∈ r.keys
    · obtain ⟨next, hnext⟩ := exists_change_of_mem hkey
      have hfirst : r.SameAt next key := sameAt_of_change hnext (Ne.symm h.1)
      rw [makeAliases_of_ok hnext]
      exact hfirst.trans (ih next h.2)
    · rw [makeAliases_of_not_mem hkey]
      exact .refl r key

/-- A failure is that of the first entry that does not resolve, and all else is what the entries
before it lead to. -/
theorem exists_of_makeAliases_failure {entries : List AliasEntry} {e : RegistryError}
    (h : (r.makeAliases entries).failure = some e) :
    ∃ i entry, entries[i]? = some entry ∧ r.AllResolve (entries.take i) ∧
      ¬ r.Resolves (entries.take i) entry ∧
      e = .unknownAliasTarget entry.name entry.target ∧
      r.makeAliases entries = { r.makeAliases (entries.take i) with failure := some e } := by
  induction entries generalizing r with
  | nil => cases h
  | cons first rest ih =>
    by_cases hkey : first.target ∈ r.keys
    · obtain ⟨next, hnext⟩ := exists_change_of_mem hkey
      rw [makeAliases_of_ok hnext] at h
      obtain ⟨i, entry, hi, hall, hentry, he, houtcome⟩ := ih h
      refine ⟨i + 1, entry, hi, ?_, ?_, he, ?_⟩
      · rw [List.take_succ_cons, allResolve_cons hnext]
        exact hall
      · rw [List.take_succ_cons, resolves_cons hnext]
        exact hentry
      · rw [List.take_succ_cons, makeAliases_of_ok hnext, makeAliases_of_ok hnext, houtcome]
    · rw [makeAliases_of_not_mem hkey] at h
      cases h
      have hfirst : ¬ r.Resolves [] first := fun hres => hkey ((r.resolves_nil first).mp hres)
      exact ⟨0, first, rfl, allResolve_nil r, hfirst, rfl, makeAliases_of_not_mem hkey rest⟩

/-- Configuring a registry succeeds exactly if the target of every entry is a key, or the name of an
earlier entry. Then the names become keys beside those before, and all other keys keep what they
call, their signature and whether they are an alias. Otherwise the failure is that of the first
entry whose target is neither, and all else is the outcome of the entries before it. -/
theorem changeAll_configuration (r : Registry) (config : RegistryConfig) :
    let outcome := r.changeAll config.changes
    let names := config.aliases.map AliasEntry.name
    (outcome.failure = none ↔ r.AllResolve config.aliases) ∧
    (outcome.failure = none →
      (∀ key, key ∈ outcome.registry.keys ↔ key ∈ r.keys ∨ key ∈ names) ∧
      ∀ key, key ∉ names → r.SameAt outcome.registry key) ∧
    ∀ e, outcome.failure = some e →
      ∃ i entry, config.aliases[i]? = some entry ∧ r.AllResolve (config.aliases.take i) ∧
        ¬ r.Resolves (config.aliases.take i) entry ∧
        e = .unknownAliasTarget entry.name entry.target ∧
        outcome =
          { r.changeAll (RegistryConfig.changes ⟨config.aliases.take i⟩) with
            failure := some e } := by
  intro outcome names
  have hsuccess : outcome.failure = none ↔ r.AllResolve config.aliases :=
    r.makeAliases_failure config.aliases
  refine ⟨hsuccess, ?_, ?_⟩
  · intro hnone
    constructor
    · intro key
      exact mem_keys_makeAliases (hsuccess.mp hnone) key
    · intro key hkey
      exact r.sameAt_makeAliases hkey
  · intro e he
    exact exists_of_makeAliases_failure he

end Registry

end TextTemplate
