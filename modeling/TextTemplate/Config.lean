import TextTemplate.Registry

/-!
# Configuration

How an engine compiles and evaluates, and which aliases its registry gets.
-/

namespace TextTemplate

/-- How texts are compiled and evaluated. -/
structure EngineConfig where
  /-- Whether an expression without calls and variables remembers its text. -/
  staticCaching : Bool := true
  /-- How deep references may be nested; one at top level has depth 1. -/
  maxNestingDepth : Nat := 64
deriving DecidableEq, Repr

/-- One declared alias. -/
structure AliasEntry where
  name : String
  target : String
deriving DecidableEq, Repr

/-- The aliases that a registry gets, in order. -/
structure RegistryConfig where
  /-- The key with two underscores had one at first. -/
  aliases : List AliasEntry := [⟨"_StringFromFile", "__StringFromFile"⟩]
deriving DecidableEq, Repr

namespace RegistryConfig

/-- No alias at all. -/
def empty : RegistryConfig := ⟨[]⟩

/-- The aliases as changes of a registry. -/
def changes (config : RegistryConfig) : List Registry.Change :=
  config.aliases.map fun entry => .makeAlias entry.name entry.target

end RegistryConfig

end TextTemplate
