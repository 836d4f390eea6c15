import TextTemplate.Routine
import TextTemplate.Text.Blank

/-!
# Surroundings

Routines that look at the context of the evaluation, and the one that writes to the log.
-/

namespace TextTemplate.Library

/-- The value of a variable whose name is an argument. -/
def variableValue : Routine :=
  .stateless (.ofParameters "__V" [.required "name" "Variable name to resolve"])
    fun call => .ok (call.scene.context.valueOf (Text.trim (call.argument 0)))

/-- The level that an argument names; an empty one names `info`. -/
def levelOfText? (s : String) : Option Level := if s = "" then some .info else Level.ofName? s

/-- Logs a message and gives it back. -/
def logMessage : Routine where
  signature := .ofParameters "__log"
    [.required "message" "Text to log and return",
      .omissible "level" "TRACE, DEBUG, INFO (default), WARN or ERROR"]
  State := Unit
  initial := ()
  run call _ :=
    let message := call.argument 0
    let name := Text.trim (call.argument 1)
    match levelOfText? name with
    | some level => call.reply () (.ok message) [] [⟨level, message⟩]
    | none =>
      call.reply () (.error (.invalidArgument "__log" 1 ("unknown log level '" ++ name ++ "'")))

/-- The number of the worker that evaluates the expression. -/
def threadNumber : Routine :=
  .stateless (.nullary "__threadNum") fun call =>
    match call.scene.context.workerNumber with
    | some n => .ok (toString n)
    | none => .error (.missingContext "__threadNum" "thread number")

end TextTemplate.Library
