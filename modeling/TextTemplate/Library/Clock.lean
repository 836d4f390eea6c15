import TextTemplate.Routine
import TextTemplate.Text.Blank
import TextTemplate.Time.Printer

/-!
# Clock

`__time` writes the current local time: in milliseconds or seconds since the start of 1970, or as
a pattern says. A few patterns have short names.
-/

namespace TextTemplate.Library

/-- The patterns with short names. -/
def patternNames : List (String × String) :=
  [("YMD", "%Y%m%d"), ("HMS", "%H%M%S"), ("YMDHMS", "%Y%m%d-%H%M%S")]

/-- Why a format cannot be used, in the words for the reader. -/
inductive FormatError where
  | invalid (format : String)
  | unprintable (format : String)
deriving DecidableEq, Repr

/-- The wording of the error. -/
def FormatError.message : FormatError → String
  | .invalid format => "invalid time format '" ++ format ++ "'"
  | .unprintable format => "time format '" ++ format ++ "' cannot be rendered"

/-- A moment in a format. -/
def formatTime (moment : Time.Moment) (format : String) : Except FormatError String :=
  if format = "" then .ok (toString moment.instant.milliseconds)
  else if format = "/1000" then .ok (toString moment.instant.seconds)
  else
    let pattern := (patternNames.lookup format).getD format
    match Time.Pattern.parse? pattern.toList with
    | none => .error (.invalid format)
    | some directives =>
      match Time.print? moment directives with
      | none => .error (.unprintable format)
      | some text => .ok (String.ofList text)

/-- The current local time. -/
def time : Routine :=
  .stateless
    (.ofParameters "__time"
      [.omissible "format" "strftime pattern, shortcut (YMD, HMS, YMDHMS) or /1000"])
    fun call =>
      match formatTime call.scene.world.moment (Text.trim (call.argument 0)) with
      | .ok text => .ok text
      | .error e => .error (.invalidArgument "__time" 0 e.message)

end TextTemplate.Library
