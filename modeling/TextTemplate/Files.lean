import TextTemplate.Text.Lines

/-!
# Files

What the library knows about files: the reasons why a file cannot be read, and when two spellings
of a path are the same path, which is when they have the same steps (`Path.ofString`).
-/

namespace TextTemplate

/-- Why a file cannot be read as text. -/
inductive FileError where
  | notFound
  | notDirectory
  | isDirectory
  | nameTooLong
  | nulInName
  | notUtf8
  /-- Any other reason, as the operating system describes it. -/
  | system (description : String) (code : Nat)
deriving DecidableEq, Repr

/-- A description together with the number of a failure. -/
def describeFailure (description : String) (code : Nat) : String :=
  description ++ " (os error " ++ toString code ++ ")"

/-- The wording of the error. -/
def FileError.message : FileError → String
  | .notFound => describeFailure "No such file or directory" 2
  | .notDirectory => describeFailure "Not a directory" 20
  | .isDirectory => describeFailure "Is a directory" 21
  | .nameTooLong => describeFailure "File name too long" 36
  | .nulInName => "file name contained an unexpected NUL byte"
  | .notUtf8 => "stream did not contain valid UTF-8"
  | .system description code => describeFailure description code

/-! ## Paths -/

/-- A path, as the steps from its start. -/
structure Path where
  absolute : Bool
  steps : List String
deriving DecidableEq, Repr

/-- Whether a step of a written path changes nothing. -/
def isIdleStep (step : List Char) : Bool := step = [] || step = ['.']

/-- The path that a text spells. Repeated slashes count once, and so does one at the end; a `.`
counts only where it starts a relative path. -/
def Path.ofString (s : String) : Path :=
  let steps := fun (pieces : List (List Char)) =>
    (pieces.filter (!isIdleStep ·)).map String.ofList
  match Text.splitOn '/' s.toList with
  | [] :: pieces => { absolute := !pieces.isEmpty, steps := steps pieces }
  | ['.'] :: pieces => { absolute := false, steps := "." :: steps pieces }
  | pieces => { absolute := false, steps := steps pieces }

end TextTemplate
