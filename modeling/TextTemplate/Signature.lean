/-!
# Signatures

The declared shape of a routine: the key that it is called by, its parameters, and how many
arguments it takes. The bounds follow from the parameters where a signature is built here; a
signature that is read from outside states them itself.
-/

namespace TextTemplate

/-- A parameter of a routine. -/
structure Parameter where
  name : String
  description : String
  optional : Bool
deriving DecidableEq, Repr

namespace Parameter

/-- A parameter that every call has an argument for. -/
def required (name description : String) : Parameter := ⟨name, description, false⟩

/-- A parameter that a call may leave out. -/
def omissible (name description : String) : Parameter := ⟨name, description, true⟩

/-- The name, with a question mark for a parameter that may be left out. -/
def display (p : Parameter) : String := if p.optional then p.name ++ "?" else p.name

end Parameter

/-- The declared shape of a routine. -/
structure Signature where
  name : String
  parameters : List Parameter
  minArity : Nat
  /-- The greatest number of arguments; `none` is no limit. -/
  maxArity : Option Nat
deriving DecidableEq, Repr

namespace Signature

/-- The number of parameters that cannot be left out. -/
def requiredCount (parameters : List Parameter) : Nat := parameters.countP (!·.optional)

/-- A signature that takes at most one argument for each parameter. -/
def ofParameters (name : String) (parameters : List Parameter) : Signature :=
  { name, parameters, minArity := requiredCount parameters, maxArity := some parameters.length }

/-- A signature whose last parameter may be repeated. -/
def variadic (name : String) (parameters : List Parameter) : Signature :=
  { name, parameters, minArity := requiredCount parameters, maxArity := none }

/-- A signature without parameters. -/
def nullary (name : String) : Signature := ofParameters name []

/-- Whether a call may have `count` arguments. -/
def accepts (signature : Signature) (count : Nat) : Bool :=
  signature.minArity ≤ count && signature.maxArity.all (count ≤ ·)

theorem accepts_iff (signature : Signature) (count : Nat) :
    signature.accepts count = true ↔
      signature.minArity ≤ count ∧ ∀ max ∈ signature.maxArity, count ≤ max := by
  simp [accepts, Option.all_eq_true]

/-- A signature that is built from parameters can be called with an argument for each of them. -/
theorem ofParameters_accepts_length (name : String) (parameters : List Parameter) :
    (ofParameters name parameters).accepts parameters.length = true := by
  have h : requiredCount parameters ≤ parameters.length := List.countP_le_length
  simp [accepts, ofParameters, h]

/-- The key with the parameters in parentheses. -/
def display (signature : Signature) : String :=
  signature.name ++ "(" ++ ", ".intercalate (signature.parameters.map Parameter.display) ++
    (if signature.maxArity.isNone then ", ..." else "") ++ ")"

end Signature

end TextTemplate
