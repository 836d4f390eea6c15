import Std.Data.TreeMap
import TextTemplate.Engine
import TextTemplate.Expression.Listing
import TextTemplate.Library

/-!
# Sessions

A session holds expressions by name, one context and one world for all of their evaluations, and
the machine that they act on. Every operation is a function from sessions to sessions.

* `compile`, `bindEmpty`, `duplicate` and `drop` change which expressions there are.
* `evaluate` and `execute` run instances; what they do is in the trace of the machine, of which
  `newRecords` and `newJournal` give the part since the last report.
-/

namespace TextTemplate

/-- Live expressions by name and what they are evaluated with. -/
structure Session where
  engine : Engine
  expressions : Std.TreeMap String LiveExpression := {}
  context : Context := {}
  world : World
  machine : Machine
  /-- The number of events whose records have been reported. -/
  recordsReported : Nat := 0
  /-- The number of events whose executions have been reported. -/
  journalReported : Nat := 0

namespace Session

/-- What evaluations see. -/
def scene (s : Session) : Scene := ⟨s.context, s.world⟩

/-- The expression with a name. -/
def expression? (s : Session) (name : String) : Option LiveExpression := s.expressions[name]?

/-- Binds a name to an expression. -/
def bind (s : Session) (name : String) (e : LiveExpression) : Session :=
  { s with expressions := s.expressions.insert name e }

/-! ## Operations -/

/-- Compiles a text and binds a name to it. A text that does not compile leaves the name as it
was. -/
def compile (s : Session) (name text : String) : Except CompileError LiveExpression × Session :=
  match s.engine.compile text s.machine with
  | (.error e, machine) => (.error e, { s with machine })
  | (.ok e, machine) => (.ok e, { s with machine }.bind name e)

/-- Binds a name to the empty expression. -/
def bindEmpty (s : Session) (name : String) : Session := s.bind name .empty

/-- Evaluates the expression with a name. -/
def evaluate (s : Session) (name : String) : Option (String × Session) :=
  match s.expression? name with
  | none => none
  | some e =>
    let (output, e, machine) := e.evaluate s.scene s.machine
    some (output, { s with machine }.bind name e)

/-- Evaluates the expression with a name several times. -/
def evaluateTimes (s : Session) (name : String) : Nat → Option (List String × Session)
  | 0 => (s.expression? name).map fun _ => ([], s)
  | times + 1 =>
    match s.evaluate name with
    | none => none
    | some (output, s) =>
      match s.evaluateTimes name times with
      | none => none
      | some (outputs, s) => some (output :: outputs, s)

/-- Binds the name `target` to a copy of the expression `source`. -/
def duplicate (s : Session) (source target : String) (deep : Bool) :
    Option (LiveExpression × Session) :=
  match s.expression? source with
  | none => none
  | some e =>
    let (copy, store) := e.duplicate deep s.machine.store
    some (copy, { s with machine := { s.machine with store } }.bind target copy)

/-- Drops the expression with a name. -/
def drop (s : Session) (name : String) : Session :=
  { s with expressions := s.expressions.erase name }

/-- The instance that a path in the expression with a name leads to. -/
def instanceAt? (s : Session) (name : String) (path : List Nat) : Option InstanceId :=
  (s.expression? name).bind (·.calleeAt? path)

/-- Executes an instance. -/
def execute (s : Session) (id : InstanceId) (arguments : List String) :
    Except InvocationError String × Session :=
  let (result, machine) := s.machine.execute s.scene id arguments
  (result, { s with machine })

/-- Clones an instance. -/
def clone (s : Session) (id : InstanceId) : InstanceId × Session :=
  let (copy, store) := s.machine.store.clone id
  (copy, { s with machine := { s.machine with store } })

/-! ## Views -/

/-- The number of calls in live expressions that drive an instance. -/
def handles (s : Session) (id : InstanceId) : Nat :=
  (s.expressions.values.flatMap Expression.callees).count id

/-- The key of the routine of an instance. -/
def referenceKey (s : Session) (id : InstanceId) : String :=
  ((s.machine.store.get? id).map (·.routine.name)).getD ""

/-- An instance in a listing. -/
def describeInstance (s : Session) (id : InstanceId) : String :=
  Expression.describeRecord "FunctionInstance"
    ("reference_key: " ++ Text.quote (s.referenceKey id) ++ ", handles: " ++
      toString (s.handles id))

/-- An expression in a listing. -/
def describe (s : Session) (e : LiveExpression) : String := e.describe s.describeInstance

/-! ## Reports -/

/-- The records that the log got since they were last asked for, at a level or more severe. -/
def newRecords (s : Session) (threshold : Option Level) : List LogRecord × Session :=
  let events := s.machine.trace.toList
  (LogRecord.select threshold ((events.drop s.recordsReported).filterMap Event.record?),
    { s with recordsReported := events.length })

/-- The journal entry of an event: the execution of a sample routine. -/
def journalEntry? : Event → Option String
  | .executed _ routine arguments =>
    if Library.Samples.all.any (·.name = routine) then
      some (routine ++ "(" ++ ",".intercalate arguments ++ ")")
    else
      none
  | .fileRead _ => none
  | .logged _ => none

/-- The journal entries since they were last asked for. -/
def newJournal (s : Session) : List String × Session :=
  let events := s.machine.trace.toList
  ((events.drop s.journalReported).filterMap journalEntry?,
    { s with journalReported := events.length })

end Session

end TextTemplate
