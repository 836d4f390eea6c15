import TextTemplate.Config
import TextTemplate.Json.Printer
import TextTemplate.Json.Reader

/-!
# Configurations in JSON

Engine and registry configurations and signatures as JSON records. A field of a configuration that
is not given has its default; the fields of a signature must be given, except that the upper bound
on the number of arguments may be left out where fields have names.
-/

namespace TextTemplate

namespace EngineConfig

/-- The configuration as a JSON value. -/
def toJson (config : EngineConfig) : Json :=
  .ofMembers
    [("static_caching", .bool config.staticCaching),
      ("max_nesting_depth", .natural config.maxNestingDepth)]

/-- The configuration that a JSON value stands for. -/
def ofJson? (json : Json) : Option EngineConfig := do
  let fields ← JsonFields.read? ["static_caching", "max_nesting_depth"] json
  let standard : EngineConfig := {}
  let staticCaching ← fields.optional? 0 standard.staticCaching Json.bool?
  let maxNestingDepth ← fields.optional? 1 standard.maxNestingDepth Json.word?
  return { staticCaching, maxNestingDepth }

/-- The configuration that a JSON text stands for. -/
def parse? (text : String) : Option EngineConfig := (Json.parse? text).bind ofJson?

end EngineConfig

namespace AliasEntry

/-- The entry as a JSON value. -/
def toJson (entry : AliasEntry) : Json :=
  .ofMembers [("alias", .ofString entry.name), ("target", .ofString entry.target)]

/-- The entry that a JSON value stands for. -/
def ofJson? (json : Json) : Option AliasEntry := do
  let fields ← JsonFields.read? ["alias", "target"] json
  let name ← fields.required? 0 Json.text?
  let target ← fields.required? 1 Json.text?
  return { name, target }

end AliasEntry

namespace RegistryConfig

/-- The configuration as a JSON value. -/
def toJson (config : RegistryConfig) : Json :=
  .ofMembers [("aliases", .array (config.aliases.map AliasEntry.toJson))]

/-- The entries that a JSON value stands for. -/
def entriesOfJson? (json : Json) : Option (List AliasEntry) :=
  json.items?.bind fun items => items.mapM AliasEntry.ofJson?

/-- The configuration that a JSON value stands for. -/
def ofJson? (json : Json) : Option RegistryConfig := do
  let fields ← JsonFields.read? ["aliases"] json
  let standard : RegistryConfig := {}
  let aliases ← fields.optional? 0 standard.aliases entriesOfJson?
  return { aliases }

/-- The configuration that a JSON text stands for. -/
def parse? (text : String) : Option RegistryConfig := (Json.parse? text).bind ofJson?

end RegistryConfig

namespace Parameter

/-- The parameter as a JSON value. -/
def toJson (p : Parameter) : Json :=
  .ofMembers
    [("name", .ofString p.name), ("description", .ofString p.description),
      ("optional", .bool p.optional)]

/-- The parameter that a JSON value stands for. -/
def ofJson? (json : Json) : Option Parameter := do
  let fields ← JsonFields.read? ["name", "description", "optional"] json
  let name ← fields.required? 0 Json.text?
  let description ← fields.required? 1 Json.text?
  let optional ← fields.required? 2 Json.bool?
  return { name, description, optional }

end Parameter

namespace Signature

/-- The signature as a JSON value. -/
def toJson (signature : Signature) : Json :=
  .ofMembers
    [("name", .ofString signature.name),
      ("parameters", .array (signature.parameters.map Parameter.toJson)),
      ("min_arity", .natural signature.minArity),
      ("max_arity", (signature.maxArity.map Json.natural).getD .null)]

/-- The parameters that a JSON value stands for. -/
def parametersOfJson? (json : Json) : Option (List Parameter) :=
  json.items?.bind fun items => items.mapM Parameter.ofJson?

/-- The upper bound that a JSON value stands for; null is no bound. -/
def maxArityOfJson? : Json → Option (Option Nat)
  | .null => some none
  | json => json.word?.map some

/-- The signature that a JSON value stands for. -/
def ofJson? (json : Json) : Option Signature := do
  let fields ← JsonFields.read? ["name", "parameters", "min_arity", "max_arity"] json
  let name ← fields.required? 0 Json.text?
  let parameters ← fields.required? 1 parametersOfJson?
  let minArity ← fields.required? 2 Json.word?
  let maxArity ←
    if fields.named then fields.optional? 3 none maxArityOfJson?
    else fields.required? 3 maxArityOfJson?
  return { name, parameters, minArity, maxArity }

/-- The signature that a JSON text stands for. -/
def parse? (text : String) : Option Signature := (Json.parse? text).bind ofJson?

end Signature

end TextTemplate
