import TextTemplate.Routine
import TextTemplate.Text.Blank

/-!
# Counting

`__counter` gives 1, 2, 3, … It counts for each instance by itself, and a clone goes on from the
count at which it was made. If its argument says `FALSE`, it counts for the whole family.
-/

namespace TextTemplate.Library

/-- What a counter counts for. -/
inductive CounterMode where
  | perCopy
  | shared
deriving DecidableEq, Repr

/-- The mode that an argument names, blanks and letter case aside; none is named by an empty one. -/
def CounterMode.ofText? (s : String) : Option CounterMode :=
  if s = "" || Text.equalIgnoringAsciiCase s "true" then some .perCopy
  else if Text.equalIgnoringAsciiCase s "false" then some .shared
  else none

/-- A count as text. -/
def showCount (n : UInt64) : String := toString n.toNat

/-- A counter whose state is the number of its own executions. -/
def counter : Routine where
  signature := .ofParameters "__counter"
    [.omissible "per_copy"
      "TRUE (default) for a counter per expression copy, FALSE for a shared one"]
  State := UInt64
  initial := 0
  run call count :=
    let mode := Text.trim (call.argument 0)
    match CounterMode.ofText? mode with
    | some .perCopy => call.reply (count + 1) (.ok (showCount (count + 1)))
    | some .shared =>
      { result := .ok (showCount (call.shared + 1))
        state := count
        shared := call.shared + 1
        entropy := call.entropy }
    | none =>
      call.reply count
        (.error (.invalidArgument "__counter" 0 ("expected TRUE or FALSE, got '" ++ mode ++ "'")))

end TextTemplate.Library
