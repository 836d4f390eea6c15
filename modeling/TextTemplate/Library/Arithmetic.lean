import TextTemplate.Routine
import TextTemplate.Text.Blank
import TextTemplate.Text.Integer

/-!
# Arithmetic

Integer arguments, and `__intSum`, which adds them up from left to right. Every partial sum has to
fit into 64 bits.
-/

namespace TextTemplate.Library

/-- An argument of the routine `name` as a signed integer, blanks around it aside. -/
def integerArgument (name : String) (index : Nat) (value : String) :
    Except InvocationError Int :=
  match Text.Bounds.signed64.read 10 (Text.trim value).toList with
  | .ok n => .ok n
  | .error e =>
    .error (.invalidArgument name index ("'" ++ value ++ "' is not an integer: " ++ e.message))

/-- Whether a number fits into 64 bits. -/
def fitsSigned64 (n : Int) : Bool :=
  Text.Bounds.signed64.least ≤ n && n ≤ Text.Bounds.signed64.greatest

/-- Adds arguments, the first of which has the index `index`, to a total. -/
def addArguments (total : Int) (index : Nat) : List String → Except InvocationError Int
  | [] => .ok total
  | value :: values =>
    match integerArgument "__intSum" index value with
    | .error e => .error e
    | .ok n =>
      if fitsSigned64 (total + n) then addArguments (total + n) (index + 1) values
      else .error (.evaluation "__intSum" "integer overflow")

/-- The sum of two or more integers. -/
def intSum : Routine :=
  .ofArguments
    (.variadic "__intSum" [.required "first" "First addend", .required "second" "Second addend"])
    fun arguments => (addArguments 0 0 arguments).map toString

end TextTemplate.Library
