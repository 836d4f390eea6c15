/-!
# Time patterns

A pattern is a text in which `%` and the letters after it name a part of a date or time.
`Pattern.parse?` reads it into directives: single fields, whole forms that stand for several of
them, and characters that are written as they are. A flag after `%` changes how a number is padded
and is allowed only in front of a single numeric field. There is no partial result: one directive
that is not understood spoils the whole pattern.
-/

namespace TextTemplate.Time

/-- What fills a number up to its width. -/
inductive Padding where
  | none
  | zeros
  | spaces
deriving DecidableEq, Repr

/-- A part of a date or time that is written as a number. -/
inductive NumericField where
  | year
  | century
  | yearOfCentury
  | weekYear
  | weekYearOfCentury
  | month
  | quarter
  | day
  | weekFromSunday
  | weekFromMonday
  | weekOfWeekYear
  | daysSinceSunday
  | weekdayFromMonday
  | ordinal
  | hour
  | hourOfHalfDay
  | minute
  | second
  | nanosecond
  | timestamp
deriving DecidableEq, Repr

/-- The digits of a fraction of a second. -/
inductive FractionField where
  /-- A point and as many of 3, 6 or 9 digits as are needed, or nothing for a whole second. -/
  | shortest
  /-- So many digits, with or without a point before them. -/
  | fixed (digits : Nat) (point : Bool)
deriving DecidableEq, Repr

/-- The forms in which the distance from universal time is written. -/
inductive OffsetField where
  | hoursMinutes
  | hoursColonMinutes
  | hoursColonMinutesColonSeconds
  | hours
  | zoneName
deriving DecidableEq, Repr

/-- One unit of a pattern. -/
inductive Directive where
  | literal (c : Char)
  | number (field : NumericField) (padding : Padding)
  | monthName
  | monthAbbreviation
  | weekdayName
  | weekdayAbbreviation
  | halfDay (capital : Bool)
  | fraction (field : FractionField)
  | offset (field : OffsetField)
  /-- An offset that is read in several forms and has none to be written in. -/
  | permissiveOffset
deriving DecidableEq, Repr

namespace Pattern

/-- A numeric field and the padding that it has without a flag. -/
def numericField? : Char → Option (NumericField × Padding)
  | 'Y' => some (.year, .zeros)
  | 'C' => some (.century, .zeros)
  | 'y' => some (.yearOfCentury, .zeros)
  | 'G' => some (.weekYear, .zeros)
  | 'g' => some (.weekYearOfCentury, .zeros)
  | 'm' => some (.month, .zeros)
  | 'q' => some (.quarter, .none)
  | 'd' => some (.day, .zeros)
  | 'e' => some (.day, .spaces)
  | 'U' => some (.weekFromSunday, .zeros)
  | 'W' => some (.weekFromMonday, .zeros)
  | 'V' => some (.weekOfWeekYear, .zeros)
  | 'w' => some (.daysSinceSunday, .none)
  | 'u' => some (.weekdayFromMonday, .none)
  | 'j' => some (.ordinal, .zeros)
  | 'H' => some (.hour, .zeros)
  | 'k' => some (.hour, .spaces)
  | 'I' => some (.hourOfHalfDay, .zeros)
  | 'l' => some (.hourOfHalfDay, .spaces)
  | 'M' => some (.minute, .zeros)
  | 'S' => some (.second, .zeros)
  | 'f' => some (.nanosecond, .zeros)
  | 's' => some (.timestamp, .none)
  | _ => none

/-- A numeric field with its own padding. -/
def numberOf (c : Char) : List Directive :=
  match numericField? c with
  | some (field, padding) => [.number field padding]
  | none => []

/-- Month, day and year of the century. -/
def slashedDate : List Directive :=
  numberOf 'm' ++ [.literal '/'] ++ numberOf 'd' ++ [.literal '/'] ++ numberOf 'y'

/-- Year, month and day. -/
def dashedDate : List Directive :=
  numberOf 'Y' ++ [.literal '-'] ++ numberOf 'm' ++ [.literal '-'] ++ numberOf 'd'

/-- Hour and minute. -/
def clock : List Directive := numberOf 'H' ++ [.literal ':'] ++ numberOf 'M'

/-- Hour, minute and second. -/
def clockWithSeconds : List Directive := clock ++ [.literal ':'] ++ numberOf 'S'

/-- What a letter that names no numeric field stands for. -/
def form? : Char → Option (List Directive)
  | 'A' => some [.weekdayName]
  | 'a' => some [.weekdayAbbreviation]
  | 'B' => some [.monthName]
  | 'b' | 'h' => some [.monthAbbreviation]
  | 'P' => some [.halfDay false]
  | 'p' => some [.halfDay true]
  | 'Z' => some [.offset .zoneName]
  | 'z' => some [.offset .hoursMinutes]
  | 'D' | 'x' => some slashedDate
  | 'F' => some dashedDate
  | 'R' => some clock
  | 'T' | 'X' => some clockWithSeconds
  | 'r' =>
    some (numberOf 'I' ++ [.literal ':'] ++ numberOf 'M' ++ [.literal ':'] ++ numberOf 'S' ++
      [.literal ' ', .halfDay true])
  | 'c' =>
    some ([.weekdayAbbreviation, .literal ' ', .monthAbbreviation, .literal ' '] ++ numberOf 'e' ++
      [.literal ' '] ++ clockWithSeconds ++ [.literal ' '] ++ numberOf 'Y')
  | 'v' =>
    some (numberOf 'e' ++ [.literal '-', .monthAbbreviation, .literal '-'] ++ numberOf 'Y')
  | '+' =>
    some (dashedDate ++ [.literal 'T'] ++ clockWithSeconds ++
      [.fraction .shortest, .offset .hoursColonMinutes])
  | 'n' => some [.literal '\n']
  | 't' => some [.literal '\t']
  | '%' => some [.literal '%']
  | _ => none

/-- The padding that a flag asks for. -/
def flag? : Char → Option Padding
  | '-' => some .none
  | '0' => some .zeros
  | '_' => some .spaces
  | _ => none

/-- Puts directives in front of what the rest of a pattern stands for. -/
def prepend (directives : List Directive) (rest : Option (List Directive)) :
    Option (List Directive) :=
  rest.map (directives ++ ·)

/-- Reads a pattern; there is none if a directive is unknown or breaks off. -/
def parse? : List Char → Option (List Directive)
  | [] => some []
  | '%' :: ':' :: ':' :: ':' :: 'z' :: cs => prepend [.offset .hours] (parse? cs)
  | '%' :: ':' :: ':' :: 'z' :: cs =>
    prepend [.offset .hoursColonMinutesColonSeconds] (parse? cs)
  | '%' :: ':' :: 'z' :: cs => prepend [.offset .hoursColonMinutes] (parse? cs)
  | '%' :: '#' :: 'z' :: cs => prepend [.permissiveOffset] (parse? cs)
  | '%' :: '.' :: 'f' :: cs => prepend [.fraction .shortest] (parse? cs)
  | '%' :: '.' :: '3' :: 'f' :: cs => prepend [.fraction (.fixed 3 true)] (parse? cs)
  | '%' :: '.' :: '6' :: 'f' :: cs => prepend [.fraction (.fixed 6 true)] (parse? cs)
  | '%' :: '.' :: '9' :: 'f' :: cs => prepend [.fraction (.fixed 9 true)] (parse? cs)
  | '%' :: '3' :: 'f' :: cs => prepend [.fraction (.fixed 3 false)] (parse? cs)
  | '%' :: '6' :: 'f' :: cs => prepend [.fraction (.fixed 6 false)] (parse? cs)
  | '%' :: '9' :: 'f' :: cs => prepend [.fraction (.fixed 9 false)] (parse? cs)
  | ['%'] => none
  | '%' :: c :: cs =>
    match flag? c with
    | some padding =>
      match cs with
      | [] => none
      | c :: cs =>
        match numericField? c with
        | some (field, _) => prepend [.number field padding] (parse? cs)
        | none => none
    | none =>
      match numericField? c with
      | some (field, padding) => prepend [.number field padding] (parse? cs)
      | none =>
        match form? c with
        | some directives => prepend directives (parse? cs)
        | none => none
  | c :: cs => prepend [.literal c] (parse? cs)

end Pattern

end TextTemplate.Time
