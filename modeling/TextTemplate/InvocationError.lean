/-!
# Invocation errors

Why a routine gives no result. The evaluation goes on after one.
-/

namespace TextTemplate

/-- Why a call of the routine `name` gives no result. -/
inductive InvocationError where
  /-- An argument cannot be interpreted. -/
  | invalidArgument (name : String) (index : Nat) (reason : String)
  /-- The routine cannot produce a value. -/
  | evaluation (name reason : String)
  /-- Something outside the program is not available. -/
  | resourceUnavailable (name reason : String)
  /-- The context lacks what the routine needs. -/
  | missingContext (name what : String)
deriving DecidableEq, Repr

/-- The wording of the error. -/
def InvocationError.message : InvocationError → String
  | .invalidArgument name index reason =>
    "Function '" ++ name ++ "' argument " ++ toString index ++ " is invalid: " ++ reason
  | .evaluation name reason => "Function '" ++ name ++ "' evaluation error: " ++ reason
  | .resourceUnavailable name reason =>
    "Function '" ++ name ++ "' resource unavailable: " ++ reason
  | .missingContext name what =>
    "Function '" ++ name ++ "' requires " ++ what ++ " from the runtime context"

end TextTemplate
