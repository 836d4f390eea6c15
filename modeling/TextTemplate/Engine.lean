import TextTemplate.Evaluate
import TextTemplate.Reader

/-!
# Engines

An engine compiles texts to live expressions: it parses a text with its registry and creates an
instance for every call.

* `duplicate` copies a live expression. A deep copy gets clones of the instances, and a shallow
  one drives the same instances as the expression that it copies. Either starts with vacant
  caches.
* `render` compiles and evaluates a text once.
-/

namespace TextTemplate

/-- A registry and the way to use it. -/
structure Engine where
  registry : Registry
  config : EngineConfig := {}

namespace Expression

/-- Creates an instance for every call. -/
def instantiate (e : Expression Routine) (store : Store) : LiveExpression × Store :=
  e.relabel (fun routine store => store.create routine) store

/-- A copy with clones of all instances. -/
def duplicateDeep (e : LiveExpression) (store : Store) : LiveExpression × Store :=
  e.relabel (fun id store => store.clone id) store

/-- A copy that drives the same instances. -/
def duplicateShallow (e : LiveExpression) : LiveExpression :=
  (e.relabel (fun id (_ : Unit) => (id, ())) ()).1

/-- A copy of either kind. -/
def duplicate (e : LiveExpression) (deep : Bool) (store : Store) : LiveExpression × Store :=
  if deep then e.duplicateDeep store else (e.duplicateShallow, store)

end Expression

namespace Engine

/-- What is logged before a text is compiled. -/
def compilingRecord (text : String) : LogRecord := ⟨.trace, "Compiling '" ++ text ++ "'"⟩

/-- Compiles a text. -/
def compile (engine : Engine) (text : String) (m : Machine) :
    Except CompileError LiveExpression × Machine :=
  let m := m.log (compilingRecord text)
  match parse engine.registry engine.config text with
  | .error e => (.error e, m)
  | .ok parsed =>
    let (e, store) := parsed.instantiate m.store
    (.ok e, { m with store })

/-- Compiles a text and evaluates it once. -/
def render (engine : Engine) (text : String) (scene : Scene) (m : Machine) :
    Except CompileError String × Machine :=
  match engine.compile text m with
  | (.error e, m) => (.error e, m)
  | (.ok e, m) =>
    let (output, _, m) := e.evaluate scene m
    (.ok output, m)

end Engine

end TextTemplate
