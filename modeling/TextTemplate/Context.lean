import Std.Data.TreeMap
import TextTemplate.Text.Quoted

/-!
# Contexts

What the surrounding system offers to an evaluation: variables, and optionally the number of the
worker, the unit of work at hand and the result of the one before it.
-/

namespace TextTemplate

/-- The state of the surroundings that an evaluation may read. -/
structure Context where
  /-- The values of the variables, by name. -/
  bindings : Std.TreeMap String String := {}
  workerNumber : Option Nat := none
  currentUnit : Option String := none
  previousResult : Option UInt16 := none

namespace Context

/-- The value of a variable. -/
def lookup (context : Context) (name : String) : Option String := context.bindings[name]?

/-- Sets or replaces a variable. -/
def set (context : Context) (name value : String) : Context :=
  { context with bindings := context.bindings.insert name value }

/-- Takes a variable away. -/
def unset (context : Context) (name : String) : Context :=
  { context with bindings := context.bindings.erase name }

/-- A context with nothing but variables. -/
def ofVariables (bindings : List (String × String)) : Context :=
  bindings.foldl (fun context (name, value) => context.set name value) {}

/-- The value of a variable, or an empty text. -/
def valueOf (context : Context) (name : String) : String := (context.lookup name).getD ""

@[simp]
theorem lookup_set_self (context : Context) (name value : String) :
    (context.set name value).lookup name = some value := by
  simp [lookup, set]

theorem lookup_set_of_ne (context : Context) {name other : String} (value : String)
    (h : name ≠ other) : (context.set name value).lookup other = context.lookup other := by
  simp [lookup, set, Std.TreeMap.getElem?_insert, h]

/-- A listing for the reader of a log: the variables in order, and which of the rest is there. -/
def describe (context : Context) : String :=
  let shown := context.bindings.toList.map fun (name, value) =>
    Text.quote name ++ ": " ++ Text.quote value
  let worker :=
    match context.workerNumber with
    | none => "None"
    | some n => "Some(" ++ toString n ++ ")"
  "EvaluationContext \x7b variables: \x7b" ++ ", ".intercalate shown ++
    "\x7d, has_current_unit: " ++ toString context.currentUnit.isSome ++
    ", has_previous_result: " ++ toString context.previousResult.isSome ++
    ", thread_num: " ++ worker ++ " \x7d"

end Context

end TextTemplate
