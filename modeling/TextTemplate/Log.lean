import TextTemplate.Text.LetterCase

/-!
# Log records

A record has a level of severity and a message. A reader who asks for a level gets the records of
that level and of the more severe ones.
-/

namespace TextTemplate

/-- The severity of a record, most severe first. -/
inductive Level where
  | error
  | warn
  | info
  | debug
  | trace
deriving DecidableEq, Repr

namespace Level

/-- All levels, most severe first. -/
def all : List Level := [error, warn, info, debug, trace]

/-- How a level is written. -/
def name : Level → String
  | error => "ERROR"
  | warn => "WARN"
  | info => "INFO"
  | debug => "DEBUG"
  | trace => "TRACE"

/-- The number of levels that are more severe. -/
def rank : Level → Nat
  | error => 0
  | warn => 1
  | info => 2
  | debug => 3
  | trace => 4

/-- The level that a text names, in either case. -/
def ofName? (s : String) : Option Level :=
  all.find? fun level => Text.equalIgnoringAsciiCase level.name s

end Level

/-- An entry of the log. -/
structure LogRecord where
  level : Level
  message : String
deriving DecidableEq, Repr

/-- The records that a reader gets who asks for `threshold`; `none` asks for none. -/
def LogRecord.select (threshold : Option Level) (records : List LogRecord) : List LogRecord :=
  match threshold with
  | none => []
  | some level => records.filter (·.level.rank ≤ level.rank)

end TextTemplate
