import TextTemplate.Expression
import TextTemplate.Machine

/-!
# Evaluation

The value of an expression is the concatenation of what its pieces contribute: a plain text
itself, a variable its value or nothing, and a call its result. The arguments of a call are
evaluated before it, from left to right. A call that fails contributes nothing; the failure is
logged, and the evaluation goes on.

An expression whose cache is filled gives the text in it and does nothing else.
-/

namespace TextTemplate

/-- An expression whose calls drive instances. -/
abbrev LiveExpression := Expression InstanceId

/-- What is logged about a call that fails. -/
def failureRecord (key : String) (position : Nat) (e : InvocationError) : LogRecord :=
  ⟨.warn, "Function '" ++ key ++ "' at position " ++ toString position ++
    " failed, contributing nothing: " ++ e.message⟩

/-- What is logged when an expression begins to remember its text. -/
def cachingRecord (raw : String) : LogRecord :=
  ⟨.trace, "Caching static result of '" ++ raw ++ "'"⟩

/-- The contribution of a call with a given result. -/
def contribution (key : String) (position : Nat) (result : Except InvocationError String)
    (m : Machine) : String × Machine :=
  match result with
  | .ok value => (value, m)
  | .error e => ("", m.log (failureRecord key position e))

/-- Remembers the text of an expression that has no calls and variables, if it may. -/
def remember (raw : String) (pieces : List (Piece InstanceId)) (cache : Cache) (text : String)
    (m : Machine) : LiveExpression × Machine :=
  if cache.isEnabled && pieces.all (!·.isDynamic) then
    (⟨raw, pieces, .filled text⟩, m.log (cachingRecord raw))
  else
    (⟨raw, pieces, cache⟩, m)

namespace Expression

mutual

/-- Evaluates an expression: its text, the expression with its caches as they are afterwards, and
the machine. -/
def evaluate (scene : Scene) : LiveExpression → Machine → String × LiveExpression × Machine
  | ⟨raw, pieces, .filled text⟩, m => (text, ⟨raw, pieces, .filled text⟩, m)
  | ⟨raw, pieces, cache⟩, m =>
    let (text, pieces, m) := evaluatePieces scene pieces m
    let (e, m) := remember raw pieces cache text m
    (text, e, m)

/-- Evaluates pieces from left to right. -/
def evaluatePieces (scene : Scene) :
    List (Piece InstanceId) → Machine → String × List (Piece InstanceId) × Machine
  | [], m => ("", [], m)
  | .text content :: pieces, m =>
    let (text, pieces, m) := evaluatePieces scene pieces m
    (content ++ text, .text content :: pieces, m)
  | .var name position :: pieces, m =>
    let (text, pieces, m) := evaluatePieces scene pieces m
    (scene.context.valueOf name ++ text, .var name position :: pieces, m)
  | .call key callee arguments position :: pieces, m =>
    let (values, arguments, m) := evaluateArguments scene arguments m
    let (result, m) := m.execute scene callee values
    let (value, m) := contribution key position result m
    let (text, pieces, m) := evaluatePieces scene pieces m
    (value ++ text, .call key callee arguments position :: pieces, m)

/-- Evaluates arguments from left to right. -/
def evaluateArguments (scene : Scene) :
    List LiveExpression → Machine → List String × List LiveExpression × Machine
  | [], m => ([], [], m)
  | e :: es, m =>
    let (value, e, m) := evaluate scene e m
    let (values, es, m) := evaluateArguments scene es m
    (value :: values, e :: es, m)

end

end Expression

end TextTemplate
