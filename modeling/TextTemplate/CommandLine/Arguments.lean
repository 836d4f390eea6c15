import TextTemplate.Text.Integer

/-!
# Arguments of the command line

`Request.ofArguments` reads the arguments from left to right. The first that has no place, or that
asks for help or the version, decides; what is missing is noticed at the end.

* An option is long (`--repeat 5`, `--repeat=5`) or short (`-r 5`, `-r5`, `-r=5`), and short ones
  without a value can be put together. A value that is an argument of its own does not start with
  a dash.
* After `--` no argument is an option.
* An option can be given once, except for `--var`.
-/

namespace TextTemplate.CommandLine

/-- The commands. -/
inductive CommandName where
  | evaluate
  | compile
  | functions
deriving DecidableEq, Repr

/-- The command that an argument names. -/
def CommandName.ofText? : String → Option CommandName
  | "evaluate" => some .evaluate
  | "compile" => some .compile
  | "functions" => some .functions
  | _ => none

/-- What a help text is about. -/
inductive HelpTopic where
  | program
  | command (name : CommandName)
  /-- The way to ask for help. -/
  | help
deriving DecidableEq, Repr

/-- What an option that asks for help is about, by the command that it belongs to. -/
def HelpTopic.ofCommand : Option CommandName → HelpTopic
  | none => program
  | some name => command name

/-- The options. -/
inductive OptionName where
  | verbose
  | help
  | version
  | var
  | repetitions
  | workerNumber
  | config
deriving DecidableEq, Repr

namespace OptionName

/-- Whether an option has a value. -/
def hasValue : OptionName → Bool
  | verbose | help | version => false
  | var | repetitions | workerNumber | config => true

/-- Whether an option may be given for a command, or in front of it. -/
def isAllowed (command : Option CommandName) : OptionName → Bool
  | verbose | help => true
  | version => command = none
  | var | repetitions | workerNumber | config => command = some .evaluate

/-- The option with a long name. -/
def ofLong? : String → Option OptionName
  | "verbose" => some verbose
  | "help" => some help
  | "version" => some version
  | "var" => some var
  | "repeat" => some repetitions
  | "thread-num" => some workerNumber
  | "config" => some config
  | _ => none

/-- The option with a short name. -/
def ofShort? : Char → Option OptionName
  | 'v' => some verbose
  | 'h' => some help
  | 'V' => some version
  | 'r' => some repetitions
  | 'c' => some config
  | _ => none

end OptionName

/-- Why arguments cannot be used. -/
inductive UsageError where
  | unknownOption (argument : String)
  | unexpectedArgument (argument : String)
  | unexpectedValue (value : String)
  | missingValue (argument : String)
  | repeatedOption
  | invalidBinding (value : String)
  | invalidNumber (value : String) (cause : Text.IntegerError)
  | emptyPath
  | missingCommand
  | missingText
deriving DecidableEq, Repr

/-- The wording of the error. -/
def UsageError.message : UsageError → String
  | .unknownOption argument | .unexpectedArgument argument =>
    "unexpected argument '" ++ argument ++ "' found"
  | .unexpectedValue value => "unexpected value '" ++ value ++ "' found; no more were expected"
  | .missingValue argument => "a value is required for '" ++ argument ++ "' but none was supplied"
  | .repeatedOption => "an option cannot be used multiple times"
  | .invalidBinding value => "invalid value: expected NAME=VALUE, got '" ++ value ++ "'"
  | .invalidNumber value cause => "invalid value '" ++ value ++ "': " ++ cause.message
  | .emptyPath => "a value is required for a path but none was supplied"
  | .missingCommand => "a command is required"
  | .missingText => "the following required arguments were not provided: <TEXT>"

/-- What ends the reading of arguments before their end. -/
inductive Stop where
  | usage (cause : UsageError)
  | help (topic : HelpTopic)
  | version
deriving DecidableEq, Repr

/-- The end of a request for help that names its topic. -/
def Stop.ofTopicNames : List String → Stop
  | [] => help .program
  | [name] =>
    match CommandName.ofText? name with
    | some command => help (.command command)
    | none => if name = "help" then help .help else usage (.unexpectedArgument name)
  | _ :: name :: _ => usage (.unexpectedArgument name)

/-- What has been read of the arguments. -/
structure Parsed where
  command : Option CommandName := none
  verbose : Bool := false
  verboseInCommand : Bool := false
  text : Option String := none
  /-- The bindings of variables, latest first. -/
  bindings : List (String × String) := []
  repetitions : Option Nat := none
  workerNumber : Option Nat := none
  config : Option String := none
deriving DecidableEq, Repr

namespace Parsed

/-- Ends the reading with an error. -/
def fail {α : Type} (cause : UsageError) : Except Stop α := .error (.usage cause)

/-- Takes an option without a value. -/
def flag (p : Parsed) : OptionName → Except Stop Parsed
  | .help => .error (.help (.ofCommand p.command))
  | .version => .error .version
  | _ =>
    if p.command.isNone then
      if p.verbose then fail .repeatedOption else .ok { p with verbose := true }
    else
      if p.verboseInCommand then fail .repeatedOption else .ok { p with verboseInCommand := true }

/-- The name and the value in the text of a binding. -/
def binding? (s : String) : Option (String × String) :=
  let name := s.toList.takeWhile (· ≠ '=')
  match s.toList.drop name.length with
  | _ :: value => if name.isEmpty then none else some (String.ofList name, String.ofList value)
  | [] => none

/-- A number of 64 bits. -/
def number (s : String) : Except Stop Nat :=
  match Text.Bounds.unsigned64.read 10 s.toList with
  | .ok n => .ok n.toNat
  | .error e => fail (.invalidNumber s e)

/-- Takes an option with a value. -/
def valued (p : Parsed) (name : OptionName) (value : String) : Except Stop Parsed :=
  match name with
  | .var =>
    match binding? value with
    | some binding => .ok { p with bindings := binding :: p.bindings }
    | none => fail (.invalidBinding value)
  | .repetitions =>
    match number value with
    | .error e => .error e
    | .ok n =>
      if p.repetitions.isSome then fail .repeatedOption else .ok { p with repetitions := some n }
  | .workerNumber =>
    match number value with
    | .error e => .error e
    | .ok n =>
      if p.workerNumber.isSome then fail .repeatedOption
      else .ok { p with workerNumber := some n }
  | .config =>
    if value = "" then fail .emptyPath
    else if p.config.isSome then fail .repeatedOption
    else .ok { p with config := some value }
  | .verbose | .help | .version => fail (.unexpectedValue value)

/-- Takes an argument that is no option, where `optionsEnded` says that no option can follow. -/
def positional (p : Parsed) (optionsEnded : Bool) (s : String) : Except Stop Parsed :=
  match p.command with
  | none =>
    match if optionsEnded then none else CommandName.ofText? s with
    | some command => .ok { p with command := some command }
    | none => fail (.unexpectedArgument s)
  | some .functions => fail (.unexpectedArgument s)
  | some _ =>
    if p.text.isSome then fail (.unexpectedArgument s) else .ok { p with text := some s }

/-- Takes arguments none of which is an option. -/
def positionals (p : Parsed) : List String → Except Stop Parsed
  | [] => .ok p
  | s :: rest =>
    match p.positional true s with
    | .error e => .error e
    | .ok p => p.positionals rest

/-- Takes the short options in one argument. What is left is the last of them, if it has a value,
and the value, if it is in the same argument. -/
def cluster (p : Parsed) (argument : String) :
    List Char → Except Stop (Parsed × Option (OptionName × Option String))
  | [] => .ok (p, none)
  | c :: cs =>
    match (OptionName.ofShort? c).filter (·.isAllowed p.command) with
    | none => fail (.unknownOption argument)
    | some name =>
      if name.hasValue then
        match cs with
        | [] => .ok (p, some (name, none))
        | '=' :: value => .ok (p, some (name, some (String.ofList value)))
        | value => .ok (p, some (name, some (String.ofList value)))
      else
        match p.flag name with
        | .error e => .error e
        | .ok p => p.cluster argument cs

/-- Takes a long option: what is left is the option, if it has a value, and the value, if it is in
the same argument. -/
def long (p : Parsed) (argument : String) (cs : List Char) :
    Except Stop (Parsed × Option (OptionName × Option String)) :=
  let name := cs.takeWhile (· ≠ '=')
  let value? :=
    match cs.drop name.length with
    | [] => none
    | _ :: value => some (String.ofList value)
  match (OptionName.ofLong? (String.ofList name)).filter (·.isAllowed p.command) with
  | none => fail (.unknownOption argument)
  | some option =>
    if option.hasValue then .ok (p, some (option, value?))
    else
      match value? with
      | some value => fail (.unexpectedValue value)
      | none => (p.flag option).map (·, none)

/-- Takes an argument that options may start in. -/
def argument (p : Parsed) (s : String) :
    Except Stop (Parsed × Option (OptionName × Option String)) :=
  match s.toList with
  | '-' :: '-' :: cs => p.long s cs
  | '-' :: c :: cs => p.cluster s (c :: cs)
  | _ => (p.positional false s).map (·, none)

/-- Whether an argument starts an option. -/
def startsOption (s : String) : Bool :=
  match s.toList with
  | '-' :: _ :: _ => true
  | _ => false

/-- Takes arguments one after the other. -/
def arguments (p : Parsed) : List String → Except Stop Parsed
  | [] => .ok p
  | s :: rest =>
    if s = "--" then p.positionals rest
    -- A request for help takes all that follows as the names of its topic.
    else if s = "help" ∧ p.command = none then .error (.ofTopicNames rest)
    else
      match p.argument s with
      | .error e => .error e
      | .ok (p, none) => p.arguments rest
      | .ok (p, some (name, some value)) =>
        match p.valued name value with
        | .error e => .error e
        | .ok p => p.arguments rest
      | .ok (p, some (name, none)) =>
        match rest with
        | [] => fail (.missingValue s)
        | value :: rest =>
          if startsOption value then fail (.missingValue s)
          else
            match p.valued name value with
            | .error e => .error e
            | .ok p => p.arguments rest

end Parsed

/-- What the command line is asked to do. -/
inductive Request where
  | evaluate (text : String) (bindings : List (String × String)) (repetitions : Nat)
      (workerNumber : Option Nat) (config : Option String)
  | compile (text : String)
  | functions
  | help (topic : HelpTopic)
  | version
deriving DecidableEq, Repr

namespace Request

/-- The request of arguments that have all been read. -/
def ofParsed (p : Parsed) : Except UsageError Request :=
  match p.command, p.text with
  | none, _ => .error .missingCommand
  | some .functions, _ => .ok .functions
  | some _, none => .error .missingText
  | some .compile, some text => .ok (.compile text)
  | some .evaluate, some text =>
    .ok (.evaluate text p.bindings.reverse (p.repetitions.getD 1) p.workerNumber p.config)

/-- The request that arguments make. -/
def ofArguments (arguments : List String) : Except UsageError Request :=
  match Parsed.arguments {} arguments with
  | .error (.usage cause) => .error cause
  | .error (.help topic) => .ok (.help topic)
  | .error .version => .ok .version
  | .ok p => ofParsed p

end Request

/-- Whether arguments ask for a detailed log. -/
def isVerbose (arguments : List String) : Bool :=
  match Parsed.arguments {} arguments with
  | .ok p => p.verbose || p.verboseInCommand
  | .error _ => false

end TextTemplate.CommandLine
