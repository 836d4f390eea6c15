import TextTemplate.Context
import TextTemplate.Entropy
import TextTemplate.Files
import TextTemplate.InvocationError
import TextTemplate.Log
import TextTemplate.Signature
import TextTemplate.Text.Utf8
import TextTemplate.Time.Calendar

/-!
# Routines

The contract between templates and the functions that they call.

* A `Routine` declares a signature and a state of its own type; `run` answers a `Call`.
* A call sees its arguments and its `Scene`: the context of the evaluation, the clock and the
  files.
* Besides its own state, a routine holds a number in common with its copies, and draws from a
  generator. A `Reply` gives these back, together with the paths of the files that were read and
  what is to be logged.
-/

namespace TextTemplate

/-- What lies outside of the program: the clock, the local time zone and the files. -/
structure World where
  now : Time.Instant
  utcOffset : Int
  octetsAt : String → Except FileError (List UInt8)

/-- The local time. -/
def World.moment (world : World) : Time.Moment := ⟨world.now, world.utcOffset⟩

/-- The text of a file. -/
def World.readText (world : World) (path : String) : Except FileError String :=
  match world.octetsAt path with
  | .error e => .error e
  | .ok octets =>
    match Text.Utf8.decode octets with
    | .error _ => .error .notUtf8
    | .ok text => .ok text

/-- What every call of one evaluation sees. -/
structure Scene where
  context : Context
  world : World

/-- A call of a routine. -/
structure Call where
  scene : Scene
  arguments : List String
  /-- The number that the instance has in common with its clones. -/
  shared : UInt64
  entropy : Entropy

/-- The argument at an index, empty when there is none. -/
def Call.argument (call : Call) (index : Nat) : String := (call.arguments[index]?).getD ""

/-- The answer to a call. -/
structure Reply (σ : Type) where
  result : Except InvocationError String
  state : σ
  shared : UInt64
  entropy : Entropy
  /-- The paths of the files that were read. -/
  reads : List String := []
  log : List LogRecord := []

/-- An answer that leaves the common number and the generator as they were. -/
def Call.reply {σ : Type} (call : Call) (state : σ) (result : Except InvocationError String)
    (reads : List String := []) (log : List LogRecord := []) : Reply σ :=
  { result, state, shared := call.shared, entropy := call.entropy, reads, log }

/-- A function that templates can call. -/
structure Routine where
  signature : Signature
  State : Type
  initial : State
  run : Call → State → Reply State

namespace Routine

/-- The key that a routine is known by. -/
def name (routine : Routine) : String := routine.signature.name

/-- A routine without state, whose result follows from the call. -/
def stateless (signature : Signature) (result : Call → Except InvocationError String) : Routine :=
  { signature, State := Unit, initial := (), run := fun call _ => call.reply () (result call) }

/-- A routine whose result follows from the arguments. -/
def ofArguments (signature : Signature)
    (result : List String → Except InvocationError String) : Routine :=
  stateless signature fun call => result call.arguments

end Routine

end TextTemplate
