import TextTemplate.CommandLine.Arguments
import TextTemplate.Config.Json
import TextTemplate.Engine
import TextTemplate.Expression.Listing
import TextTemplate.Library
import TextTemplate.Position

/-!
# Command line

`CommandLine.run` is the program as a function: from arguments and the world to what is written
and the exit code. The code is 0 for success, 1 for a failure that is described on the error
output, and 2 for arguments that cannot be used.
-/

namespace TextTemplate.CommandLine

/-- What a run of the program leaves behind. -/
structure Outcome where
  exitCode : UInt32
  output : String
  errors : String
deriving DecidableEq, Repr

/-- A run that succeeds. -/
def success (output : String) : Outcome := ⟨0, output, ""⟩

/-- A run that fails. -/
def failure (description : String) : Outcome := ⟨1, "", "Error: " ++ description ++ "\n"⟩

/-- Lines, each with a line feed. -/
def unlines (lines : List String) : String := String.join (lines.map (· ++ "\n"))

/-- The name of the program and its version. -/
def versionLine : String := "paramexpr 0.2.0"

/-- The help texts. -/
def helpText : HelpTopic → String
  | .program =>
    unlines
      ["Compile and evaluate parameter expressions such as 'id=$\x7b__counter\x7d'", "",
        "Usage: paramexpr [OPTIONS] <COMMAND>", "",
        "Commands:",
        "  evaluate   Evaluate an expression and print each result on its own line",
        "  compile    Validate an expression and print its component tree",
        "  functions  List the registered functions",
        "  help       Print this message or the help of the given subcommand(s)", "",
        "Options:",
        "  -v, --verbose  Enable debug logging",
        "  -h, --help     Print help",
        "  -V, --version  Print version"]
  | .command .evaluate =>
    unlines
      ["Evaluate an expression and print each result on its own line", "",
        "Usage: paramexpr evaluate [OPTIONS] <TEXT>", "",
        "Arguments:",
        "  <TEXT>  Expression text", "",
        "Options:",
        "  -v, --verbose                  Enable debug logging",
        "      --var <NAME=VALUE>         Variable binding, may be repeated",
        "  -r, --repeat <REPEAT>          Number of evaluations [default: 1]",
        "      --thread-num <THREAD_NUM>  Thread number reported to __threadNum",
        "  -c, --config <CONFIG>          JSON registry configuration with extra aliases",
        "  -h, --help                     Print help"]
  | .command .compile =>
    unlines
      ["Validate an expression and print its component tree", "",
        "Usage: paramexpr compile [OPTIONS] <TEXT>", "",
        "Arguments:",
        "  <TEXT>  Expression text", "",
        "Options:",
        "  -v, --verbose  Enable debug logging",
        "  -h, --help     Print help"]
  | .command .functions =>
    unlines
      ["List the registered functions", "",
        "Usage: paramexpr functions [OPTIONS]", "",
        "Options:",
        "  -v, --verbose  Enable debug logging",
        "  -h, --help     Print help"]
  | .help =>
    unlines
      ["Print this message or the help of the given subcommand(s)", "",
        "Usage: paramexpr help [COMMAND]...", "",
        "Arguments:",
        "  [COMMAND]...  Print help for the subcommand(s)"]

/-- Why a command cannot be carried out. -/
inductive Failure where
  | unreadableConfig (path : String) (cause : FileError)
  | registry (cause : RegistryError)
  | compile (place : Position) (cause : CompileError)
deriving DecidableEq, Repr

/-- The description of a failure, with its cause on lines of its own where it has one. -/
def Failure.message : Failure → String
  | .unreadableConfig path cause =>
    "Error reading config '" ++ path ++ "'\n\nCaused by:\n    " ++ cause.message
  | .registry cause => cause.message
  | .compile place cause =>
    "Error compiling expression at " ++ toString place.line ++ ":" ++ toString place.column ++
      ": " ++ cause.message

/-- The engine with the standard registry and the aliases in the configuration at a path. -/
def configuredEngine (world : World) : Option String → Except Failure Engine
  | none => .ok { registry := Library.standardRegistry }
  | some path =>
    match world.readText path with
    | .error e => .error (.unreadableConfig path e)
    | .ok text =>
      match RegistryConfig.parse? text with
      | none => .error (.registry (.invalidConfig "not a registry configuration in JSON"))
      | some config =>
        let changed := Library.standardRegistry.changeAll config.changes
        match changed.failure with
        | some e => .error (.registry e)
        | none => .ok { registry := changed.registry }

/-- A compile error with its place in the text. -/
def locate (text : String) (e : CompileError) : Failure := .compile (lineColumn text e.position) e

/-- The outputs of evaluating an expression several times. -/
def evaluateTimes (scene : Scene) : Nat → LiveExpression → Machine → List String × Machine
  | 0, _, m => ([], m)
  | times + 1, e, m =>
    let (output, e, m) := e.evaluate scene m
    let (outputs, m) := evaluateTimes scene times e m
    (output :: outputs, m)

/-- What a command leaves behind, and what happened meanwhile. -/
structure Report where
  outcome : Outcome
  events : List Event := []

/-- Carries out a command that evaluates a text. -/
def evaluate (world : World) (entropy : Entropy) (text : String)
    (bindings : List (String × String)) (repetitions : Nat) (workerNumber : Option Nat)
    (config : Option String) : Report :=
  let reads := config.toList.map Event.fileRead
  match configuredEngine world config with
  | .error e => { outcome := failure e.message, events := reads }
  | .ok engine =>
    match engine.compile text { entropy } with
    | (.error e, m) =>
      { outcome := failure (locate text e).message, events := reads ++ m.trace.toList }
    | (.ok e, m) =>
      let context := { Context.ofVariables bindings with workerNumber }
      let (outputs, m) := evaluateTimes ⟨context, world⟩ repetitions e m
      { outcome := success (unlines outputs), events := reads ++ m.trace.toList }

/-- The line above the tree of an expression. -/
def headline (e : Expression Routine) : String :=
  "Expression: " ++ Text.quote e.raw ++ " (" ++ toString e.pieces.length ++ " components, " ++
    toString e.callCount ++ " function calls" ++ (if e.isPureLiteral then ", literal" else "") ++
    ")"

/-- Carries out a command that shows the tree of a text. -/
def compile (text : String) : Outcome :=
  match parse Library.standardRegistry {} text with
  | .error e => failure (locate text e).message
  | .ok e => success (unlines (headline e :: e.outline Routine.name 1))

/-- The line of a key in the list of functions. -/
def functionLine (registry : Registry) (key : String) (signature : Signature) : String :=
  match registry.aliasTarget key with
  | some target => key ++ "  (alias of " ++ target ++ ")"
  | none => signature.display

/-- The list of functions. -/
def functions : Outcome :=
  let registry := Library.standardRegistry
  success (unlines (registry.signatures.map fun (key, signature) =>
    functionLine registry key signature))

/-- Runs the program. -/
def run (world : World) (entropy : Entropy) (arguments : List String) : Report :=
  match Request.ofArguments arguments with
  | .error e => { outcome := ⟨2, "", "error: " ++ e.message ++ "\n"⟩ }
  | .ok .version => { outcome := success (versionLine ++ "\n") }
  | .ok (.help topic) => { outcome := success (helpText topic) }
  | .ok .functions => { outcome := functions }
  | .ok (.compile text) => { outcome := compile text }
  | .ok (.evaluate text bindings repetitions workerNumber config) =>
    evaluate world entropy text bindings repetitions workerNumber config

end TextTemplate.CommandLine
