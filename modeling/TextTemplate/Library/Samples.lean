import TextTemplate.Routine
import TextTemplate.Text.Integer

/-!
# Samples

Small routines that show what a plug-in can do: results from arguments, a state of its own,
errors, and the parts of the context that no other routine reads.
-/

namespace TextTemplate.Library.Samples

/-- A parameter of a sample. -/
def parameter (name : String) (optional : Bool) : Parameter :=
  ⟨name, "test parameter", optional⟩

/-- A routine that gives back the name of its signature. -/
def constant (signature : Signature) : Routine :=
  .stateless signature fun _ => .ok signature.name

/-- The first argument in upper case. -/
def upper : Routine :=
  .stateless (.ofParameters "upper" [parameter "text" false])
    fun call => .ok (Text.upper (call.argument 0))

/-- Never has a result. -/
def fails : Routine :=
  .stateless (.nullary "fails") fun _ => .error (.evaluation "fails" "always fails")

/-- Gives back its name. -/
def inner : Routine := constant (.nullary "inner")

/-- Gives back its name whatever its argument is. -/
def outer : Routine := constant (.ofParameters "outer" [parameter "arg0" false])

/-- The arguments with bars between them. -/
def join : Routine :=
  .ofArguments (.variadic "join" [parameter "part" true]) fun arguments =>
    .ok ("|".intercalate arguments)

/-- Two arguments with an equals sign between them. -/
def pair : Routine :=
  .stateless (.ofParameters "pair" [parameter "left" false, parameter "right" false])
    fun call => .ok (call.argument 0 ++ "=" ++ call.argument 1)

/-- The amount that an argument adds to a total: the number that it spells, or else 1. -/
def stepOf (arguments : List String) : UInt64 :=
  match arguments with
  | [] => 1
  | s :: _ =>
    match Text.Bounds.unsigned64.read 10 s.toList with
    | .ok n => UInt64.ofNat n.toNat
    | .error _ => 1

/-- The total of what its calls added. -/
def tally : Routine where
  signature := .ofParameters "tally" [parameter "step" true]
  State := UInt64
  initial := 0
  run call total :=
    let total := total + stepOf call.arguments
    call.reply total (.ok (toString total.toNat))

/-- Fails at every other call, the first included. -/
def flaky : Routine where
  signature := .ofParameters "flaky" [parameter "x" true]
  State := UInt64
  initial := 0
  run call total :=
    let total := total + 1
    if total % 2 = 1 then
      call.reply total (.error (.evaluation "flaky" ("odd call " ++ toString total.toNat)))
    else
      call.reply total (.ok (toString total.toNat))

/-- The unit of work at hand. -/
def unit : Routine :=
  .stateless (.nullary "unit") fun call =>
    match call.scene.context.currentUnit with
    | some name => .ok name
    | none => .error (.missingContext "unit" "current unit")

/-- The result of the unit of work before. -/
def prev : Routine :=
  .stateless (.nullary "prev") fun call =>
    match call.scene.context.previousResult with
    | some n => .ok (toString n.toNat)
    | none => .error (.missingContext "prev" "previous result")

/-- All samples. -/
def all : List Routine :=
  [upper, fails, inner, outer, join, pair, tally, flaky, unit, prev]

end TextTemplate.Library.Samples
