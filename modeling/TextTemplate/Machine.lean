import TextTemplate.Store

/-!
# Machine

What evaluations read and change: the store of instances, the generator of random words, and the
trace of all that happened, in order. An event of the trace is the execution of an instance, the
reading of a file, or a record of the log.
-/

namespace TextTemplate

/-- Something that happened. -/
inductive Event where
  /-- An instance was executed with arguments. -/
  | executed (id : InstanceId) (routine : String) (arguments : List String)
  /-- A file was read, or was tried to be read. -/
  | fileRead (path : String)
  | logged (record : LogRecord)
deriving DecidableEq, Repr

namespace Event

/-- The record of an event of the log. -/
def record? : Event → Option LogRecord
  | logged record => some record
  | executed _ _ _ => none
  | fileRead _ => none

/-- The path of a file that was read. -/
def path? : Event → Option String
  | fileRead path => some path
  | executed _ _ _ => none
  | logged _ => none

end Event

/-- The state that evaluations act on. -/
structure Machine where
  store : Store := {}
  entropy : Entropy
  trace : Array Event := #[]

namespace Machine

/-- Appends events to the trace. -/
def append (m : Machine) (events : List Event) : Machine :=
  { m with trace := m.trace.appendList events }

/-- Appends a record of the log to the trace. -/
def log (m : Machine) (record : LogRecord) : Machine := m.append [.logged record]

/-- The events of an execution that gave a reply. -/
def eventsOf (id : InstanceId) (inst : Instance) (arguments : List String)
    (reply : Reply inst.routine.State) : List Event :=
  .executed id inst.routine.name arguments ::
    (reply.reads.map .fileRead ++ reply.log.map .logged)

/-- Executes an instance. A number without an instance gives an empty text. -/
def execute (m : Machine) (scene : Scene) (id : InstanceId) (arguments : List String) :
    Except InvocationError String × Machine :=
  match m.store.get? id with
  | none => (.ok "", m)
  | some inst =>
    let call : Call :=
      { scene, arguments, shared := m.store.shared inst.family, entropy := m.entropy }
    let reply := inst.routine.run call inst.state
    let next : Machine :=
      { m with store := m.store.update id inst reply, entropy := reply.entropy }
    (reply.result, next.append (eventsOf id inst arguments reply))

end Machine

end TextTemplate
