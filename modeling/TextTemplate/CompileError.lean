/-!
# Compile errors

Why a text is no template. Every error points at the character that shows the fault.
-/

namespace TextTemplate

/-- What a reader of references was looking for. -/
inductive Expected where
  | identifier
  | closingBrace
deriving DecidableEq, Repr

/-- The wording of an expectation. -/
def Expected.message : Expected → String
  | .identifier => "an identifier, '(' or '\x7d'"
  | .closingBrace => "'\x7d'"

/-- Why a text does not compile, with the offset in octets of the culprit. -/
inductive CompileError where
  /-- A reference is never closed. -/
  | unterminatedReference (position : Nat)
  /-- A parenthesis is never closed. -/
  | unbalancedParentheses (position : Nat)
  /-- A character stands where the grammar has no place for it. -/
  | unexpectedCharacter (found : Char) (expected : Expected) (position : Nat)
  /-- A reference has no name. -/
  | emptyReference (position : Nat)
  /-- The name of a call is not registered. -/
  | unknownFunction (name : String) (position : Nat)
  /-- A call has fewer or more arguments than the routine takes. -/
  | invalidArity (name : String) (min : Nat) (max : Option Nat) (actual position : Nat)
  /-- References are nested deeper than allowed. -/
  | nestingTooDeep (limit position : Nat)
deriving DecidableEq, Repr

namespace CompileError

/-- The offset of the culprit. -/
def position : CompileError → Nat
  | unterminatedReference p => p
  | unbalancedParentheses p => p
  | unexpectedCharacter _ _ p => p
  | emptyReference p => p
  | unknownFunction _ p => p
  | invalidArity _ _ _ _ p => p
  | nestingTooDeep _ p => p

/-- An upper bound on the number of arguments. -/
def boundMessage : Option Nat → String
  | none => "∞"
  | some n => toString n

/-- The wording of the error. -/
def message : CompileError → String
  | unterminatedReference p => "Unterminated reference starting at position " ++ toString p
  | unbalancedParentheses p =>
    "Unbalanced parentheses: '(' at position " ++ toString p ++ " is never closed"
  | unexpectedCharacter found expected p =>
    "Unexpected '" ++ found.toString ++ "' at position " ++ toString p ++ ", expected " ++
      expected.message
  | emptyReference p => "Empty reference at position " ++ toString p
  | unknownFunction name p => "Unknown function '" ++ name ++ "' at position " ++ toString p
  | invalidArity name min max actual p =>
    "Function '" ++ name ++ "' expects " ++ toString min ++ "-" ++ boundMessage max ++
      " arguments, got " ++ toString actual ++ " (position " ++ toString p ++ ")"
  | nestingTooDeep limit p =>
    "Reference nesting exceeds the limit of " ++ toString limit ++ " at position " ++ toString p

end CompileError

end TextTemplate
