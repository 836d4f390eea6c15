import Std.Data.TreeMap
import TextTemplate.Routine

/-!
# Registry

The keys that templates can call, in order. Three maps are kept: the routine that a key calls, the
signature that is declared for it, and the target of each key that is an alias.

* A `Registry.Change` binds a key or makes an alias; `Registry.change` applies one, and
  `Registry.changeAll` a list of them up to the first that fails.
* An alias is bound to the routine that its target has at that moment. It is on record as an alias
  until its key is bound again.
-/

namespace TextTemplate

/-- Why a registry cannot be changed or configured. -/
inductive RegistryError where
  | unknownAliasTarget (name target : String)
  | invalidConfig (reason : String)
deriving DecidableEq, Repr

/-- The wording of the error. -/
def RegistryError.message : RegistryError → String
  | .unknownAliasTarget name target =>
    "Cannot alias '" ++ name ++ "' to unregistered function '" ++ target ++ "'"
  | .invalidConfig reason => "Invalid registry configuration: " ++ reason

/-- Routines by the keys that call them. -/
structure Registry where
  /-- What each key calls. -/
  bindings : Std.TreeMap String Routine := {}
  /-- The signature that is declared for each key. -/
  declared : Std.TreeMap String Signature := {}
  /-- The key that each alias stands for. -/
  targets : Std.TreeMap String String := {}

namespace Registry

/-- The registry without keys. -/
def empty : Registry := {}

/-- The routine that a key calls. -/
def lookup (registry : Registry) (key : String) : Option Routine := registry.bindings[key]?

@[simp]
theorem lookup_empty (key : String) : empty.lookup key = none := by
  simp [lookup, empty]

/-- Whether a key is registered. -/
def contains (registry : Registry) (key : String) : Bool := registry.bindings.contains key

/-- The key that an alias stands for. -/
def aliasTarget (registry : Registry) (key : String) : Option String := registry.targets[key]?

/-- The signature that is declared for a key. -/
def signature (registry : Registry) (key : String) : Option Signature := registry.declared[key]?

/-- All keys in order. -/
def keys (registry : Registry) : List String := registry.bindings.keys

/-- All keys in order, with the signatures that are declared for them. -/
def signatures (registry : Registry) : List (String × Signature) := registry.declared.toList

/-- The aliases in order, with their targets. -/
def aliases (registry : Registry) : List (String × String) := registry.targets.toList

/-- The number of keys. -/
def size (registry : Registry) : Nat := registry.bindings.size

/-- Whether there is no key. -/
def isEmpty (registry : Registry) : Bool := registry.bindings.isEmpty

/-! ## Changes -/

/-- A change of a registry. -/
inductive Change where
  /-- Binds a key to a routine. -/
  | bind (key : String) (routine : Routine)
  /-- Binds a key to the routine of another one. -/
  | makeAlias (key target : String)

namespace Change

/-- Binds a routine to the key that it is known by. -/
def register (routine : Routine) : Change := bind routine.name routine

/-- What is logged about a change. -/
def record : Change → LogRecord
  | bind key routine =>
    ⟨.debug, "Registering function '" ++ key ++ "' as " ++ routine.signature.display⟩
  | makeAlias key target =>
    ⟨.debug, "Registering alias '" ++ key ++ "' for '" ++ target ++ "'"⟩

end Change

/-- Binds a key to a routine. It is no alias from then on. -/
def bind (registry : Registry) (key : String) (routine : Routine) : Registry where
  bindings := registry.bindings.insert key routine
  declared := registry.declared.insert key routine.signature
  targets := registry.targets.erase key

/-- Binds a key to the routine of another one, whose signature it takes over. -/
def bindAlias (registry : Registry) (key target : String) (routine : Routine) : Registry where
  bindings := registry.bindings.insert key routine
  declared :=
    match registry.signature target with
    | some signature => registry.declared.insert key signature
    | none => registry.declared
  targets := registry.targets.insert key target

/-- The registry after a change. -/
def change (registry : Registry) : Change → Except RegistryError Registry
  | .bind key routine => .ok (registry.bind key routine)
  | .makeAlias key target =>
    match registry.lookup target with
    | none => .error (.unknownAliasTarget key target)
    | some routine => .ok (registry.bindAlias key target routine)

theorem lookup_bind (registry : Registry) (key other : String) (routine : Routine) :
    (registry.bind key routine).lookup other =
      if key = other then some routine else registry.lookup other := by
  by_cases h : key = other <;> simp [lookup, bind, Std.TreeMap.getElem?_insert, h]

theorem lookup_bindAlias (registry : Registry) (key target other : String) (routine : Routine) :
    (registry.bindAlias key target routine).lookup other =
      if key = other then some routine else registry.lookup other := by
  by_cases h : key = other <;> simp [lookup, bindAlias, Std.TreeMap.getElem?_insert, h]

theorem lookup_of_bind {registry next : Registry} {key : String} {routine : Routine}
    (h : registry.change (.bind key routine) = .ok next) (other : String) :
    next.lookup other = if key = other then some routine else registry.lookup other := by
  cases h
  exact lookup_bind registry key other routine

/-- An alias calls what its target calls, and no other key changes. -/
theorem lookup_of_makeAlias {registry next : Registry} {key target : String}
    (h : registry.change (.makeAlias key target) = .ok next) (other : String) :
    next.lookup other = registry.lookup (if key = other then target else other) := by
  cases ht : registry.lookup target with
  | none => simp [change, ht] at h
  | some routine =>
    simp only [change, ht, Except.ok.injEq] at h
    subst h
    rw [lookup_bindAlias]
    split <;> simp [ht]

/-- The outcome of several changes: the registry after those that took place, what they logged,
and why the next one did not take place. -/
structure Changed where
  registry : Registry
  log : List LogRecord
  failure : Option RegistryError

/-- Applies changes in order and stops at the first that fails. -/
def changeAll (registry : Registry) : List Change → Changed
  | [] => { registry, log := [], failure := none }
  | c :: cs =>
    match registry.change c with
    | .error e => { registry, log := [], failure := some e }
    | .ok next =>
      let rest := changeAll next cs
      { rest with log := c.record :: rest.log }

/-- A listing for the reader of a log. -/
def describe (registry : Registry) : String :=
  let aliases := registry.aliases.map fun (key, target) =>
    Text.quote key ++ ": " ++ Text.quote target
  "FunctionRegistry \x7b keys: [" ++ ", ".intercalate (registry.keys.map Text.quote) ++
    "], aliases: \x7b" ++ ", ".intercalate aliases ++ "\x7d \x7d"

end Registry

end TextTemplate
