import TextTemplate.Session

/-!
# Runs of sessions

What a session can be asked for, one step after the other, and the states that it gets into.

* `Session.perform` takes one step, and `Session.run` a list of them.
* `Session.Reachable` holds of the states that steps lead to from any start without expressions.
* `Session.transition` says all that a step does to the live expressions and to the store. The
  invariants of sessions are proved by cases of it.
-/

namespace TextTemplate.Session

/-- A step of a session. -/
inductive Action where
  | compile (name text : String)
  | bindEmpty (name : String)
  | evaluate (name : String)
  | duplicate (source target : String) (deep : Bool)
  | drop (name : String)
  /-- Goes on with another engine, context and world. -/
  | resume (engine : Engine) (context : Context) (world : World)

/-- What a step tells. -/
inductive Outcome where
  | done
  | output (text : String)
  | failed (e : CompileError)
  /-- There is no expression with the name that was given. -/
  | missing
deriving DecidableEq, Repr

/-- A session without expressions. -/
def start (engine : Engine) (context : Context) (world : World) (machine : Machine) : Session :=
  { engine, context, world, machine }

/-- Takes a step. -/
def perform (s : Session) : Action → Outcome × Session
  | .compile name text =>
    match s.compile name text with
    | (.error e, s) => (.failed e, s)
    | (.ok _, s) => (.done, s)
  | .bindEmpty name => (.done, s.bindEmpty name)
  | .evaluate name =>
    match s.evaluate name with
    | none => (.missing, s)
    | some (text, s) => (.output text, s)
  | .duplicate source target deep =>
    match s.duplicate source target deep with
    | none => (.missing, s)
    | some (_, s) => (.done, s)
  | .drop name => (.done, s.drop name)
  | .resume engine context world => (.done, { s with engine, context, world })

/-- Takes steps in order. -/
def run : Session → List Action → List Outcome × Session
  | s, [] => ([], s)
  | s, action :: actions =>
    let (outcome, s) := s.perform action
    let (outcomes, s) := run s actions
    (outcome :: outcomes, s)

/-- The sessions that steps lead to. -/
inductive Reachable : Session → Prop where
  | start (engine : Engine) (context : Context) (world : World) (machine : Machine) :
      Reachable (start engine context world machine)
  | step {s : Session} (h : Reachable s) (action : Action) : Reachable (s.perform action).2

/-! ## Names -/

/-- One name has changed its meaning, if any. -/
def Rebinds (s s' : Session) (name : String) (e : Option LiveExpression) : Prop :=
  ∀ other, s'.expression? other = if name = other then e else s.expression? other

/-- The names and the store are as they were. -/
def Keeps (s s' : Session) : Prop :=
  s'.expression? = s.expression? ∧ s'.machine.store = s.machine.store

@[simp]
theorem expression?_start (engine : Engine) (context : Context) (world : World)
    (machine : Machine) (name : String) :
    (start engine context world machine).expression? name = none := by
  simp [start, expression?]

theorem expression?_bind (s : Session) (name other : String) (e : LiveExpression) :
    (s.bind name e).expression? other = if name = other then some e else s.expression? other := by
  by_cases h : name = other <;> simp [bind, expression?, Std.TreeMap.getElem?_insert, h]

theorem expression?_drop (s : Session) (name other : String) :
    (s.drop name).expression? other = if name = other then none else s.expression? other := by
  by_cases h : name = other <;> simp [drop, expression?, Std.TreeMap.getElem?_erase, h]

namespace Rebinds

variable {s s' : Session} {name other : String} {e : Option LiveExpression}

theorem self (h : Rebinds s s' name e) : s'.expression? name = e := by
  rw [h name, if_pos rfl]

theorem of_ne (h : Rebinds s s' name e) (hn : name ≠ other) :
    s'.expression? other = s.expression? other := by
  rw [h other, if_neg hn]

end Rebinds

/-! ## Steps -/

section Steps

variable (s : Session) {name source target text : String} {e : LiveExpression}

theorem perform_compile_error {error : CompileError}
    (h : parse s.engine.registry s.engine.config text = .error error) :
    s.perform (.compile name text) =
      (.failed error, { s with machine := s.machine.log (Engine.compilingRecord text) }) := by
  simp [perform, compile, Engine.compile, h]

theorem perform_compile_ok {parsed : Expression Routine}
    (h : parse s.engine.registry s.engine.config text = .ok parsed) :
    s.perform (.compile name text) =
      (.done, { s with
        machine := { s.machine.log (Engine.compilingRecord text) with
          store := (parsed.instantiate s.machine.store).2 } }.bind name
            (parsed.instantiate s.machine.store).1) := by
  simp [perform, compile, Engine.compile, h, Machine.log, Machine.append]

theorem perform_evaluate_none (h : s.expression? name = none) :
    s.perform (.evaluate name) = (.missing, s) := by
  simp [perform, evaluate, h]

theorem perform_evaluate_some (h : s.expression? name = some e) :
    s.perform (.evaluate name) =
      (.output (e.evaluate s.scene s.machine).1,
        { s with machine := (e.evaluate s.scene s.machine).2.2 }.bind name
          (e.evaluate s.scene s.machine).2.1) := by
  simp [perform, evaluate, h]

theorem perform_duplicate_none (deep : Bool) (h : s.expression? source = none) :
    s.perform (.duplicate source target deep) = (.missing, s) := by
  simp [perform, duplicate, h]

theorem perform_duplicate_some (deep : Bool) (h : s.expression? source = some e) :
    s.perform (.duplicate source target deep) =
      (.done, { s with
        machine := { s.machine with store := (e.duplicate deep s.machine.store).2 } }.bind target
          (e.duplicate deep s.machine.store).1) := by
  simp [perform, duplicate, h]

end Steps

/-- What a step with an outcome does to the live expressions and to the store. -/
inductive Transition (s : Session) : Action → Outcome → Session → Prop where
  | compiled {name text : String} {parsed : Expression Routine} {s' : Session}
      (parse : parse s.engine.registry s.engine.config text = .ok parsed)
      (names : Rebinds s s' name (some (parsed.instantiate s.machine.store).1))
      (store : s'.machine.store = (parsed.instantiate s.machine.store).2) :
      Transition s (.compile name text) .done s'
  | rejected {name text : String} {e : CompileError} {s' : Session} (kept : Keeps s s') :
      Transition s (.compile name text) (.failed e) s'
  | emptied {name : String} {s' : Session} (names : Rebinds s s' name (some .empty))
      (store : s'.machine.store = s.machine.store) : Transition s (.bindEmpty name) .done s'
  | evaluated {name : String} {e : LiveExpression} {s' : Session}
      (found : s.expression? name = some e)
      (names : Rebinds s s' name (some (e.evaluate s.scene s.machine).2.1))
      (store : s'.machine.store = (e.evaluate s.scene s.machine).2.2.store) :
      Transition s (.evaluate name) (.output (e.evaluate s.scene s.machine).1) s'
  | copied {source target : String} {deep : Bool} {e : LiveExpression} {s' : Session}
      (found : s.expression? source = some e)
      (names : Rebinds s s' target (some (e.duplicate deep s.machine.store).1))
      (store : s'.machine.store = (e.duplicate deep s.machine.store).2) :
      Transition s (.duplicate source target deep) .done s'
  | dropped {name : String} {s' : Session} (names : Rebinds s s' name none)
      (store : s'.machine.store = s.machine.store) : Transition s (.drop name) .done s'
  | absent {action : Action} {s' : Session} (kept : Keeps s s') :
      Transition s action .missing s'
  | resumed {engine : Engine} {context : Context} {world : World} {s' : Session}
      (kept : Keeps s s') : Transition s (.resume engine context world) .done s'

/-- Every step is one of the transitions. -/
theorem transition (s : Session) (action : Action) :
    Transition s action (s.perform action).1 (s.perform action).2 := by
  cases action with
  | compile name text =>
    cases hp : parse s.engine.registry s.engine.config text with
    | error e =>
      rw [s.perform_compile_error hp]
      exact .rejected ⟨rfl, rfl⟩
    | ok parsed =>
      rw [s.perform_compile_ok hp]
      exact .compiled hp (fun other => expression?_bind _ name other _) rfl
  | bindEmpty name => exact .emptied (fun other => expression?_bind s name other _) rfl
  | evaluate name =>
    cases he : s.expression? name with
    | none =>
      rw [s.perform_evaluate_none he]
      exact .absent ⟨rfl, rfl⟩
    | some e =>
      rw [s.perform_evaluate_some he]
      exact .evaluated he (fun other => expression?_bind _ name other _) rfl
  | duplicate source target deep =>
    cases he : s.expression? source with
    | none =>
      rw [s.perform_duplicate_none deep he]
      exact .absent ⟨rfl, rfl⟩
    | some e =>
      rw [s.perform_duplicate_some deep he]
      exact .copied he (fun other => expression?_bind _ target other _) rfl
  | drop name => exact .dropped (fun other => expression?_drop s name other) rfl
  | resume engine context world => exact .resumed ⟨rfl, rfl⟩

/-! ## A session with one expression -/

/-- An engine with a single routine, which has a state. -/
def tallyEngine : Engine :=
  { registry := (Registry.empty.changeAll [.register Library.Samples.tally]).registry }

/-- A session with an expression that calls the routine. -/
def tallySession : Session :=
  (perform (.start tallyEngine {} ⟨⟨0, 0⟩, 0, fun _ => .error .notFound⟩ { entropy := ⟨0⟩ })
    (.compile "e" "$\x7btally\x7d")).2

theorem tallySession_reachable : tallySession.Reachable := .step (.start _ _ _ _) _

theorem parse_tally : parse tallyEngine.registry tallyEngine.config "$\x7btally\x7d" =
    .ok ⟨"$\x7btally\x7d", [.call "tally" Library.Samples.tally [] 0], .vacant⟩ := rfl

theorem tallySession_expression? : tallySession.expression? "e" =
    some ⟨"$\x7btally\x7d", [.call "tally" 0 [] 0], .vacant⟩ := by
  rw [tallySession, perform_compile_ok _ parse_tally, expression?_bind, if_pos rfl]
  rfl

theorem tallySession_store : tallySession.machine.store =
    ⟨#[⟨Library.Samples.tally, (0 : UInt64), 0⟩], #[0]⟩ := by
  rw [tallySession, perform_compile_ok _ parse_tally]
  rfl

end TextTemplate.Session
