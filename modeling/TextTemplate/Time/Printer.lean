import TextTemplate.Time.Calendar
import TextTemplate.Time.Pattern

/-!
# Printing a moment

`Directive.print?` writes one unit of a pattern for a moment, and `print?` a whole pattern. Only a
directive that has no written form makes it fail.
-/

namespace TextTemplate.Time

/-- Fills digits up to a width on the left. -/
def fill (padding : Padding) (width : Nat) (cs : List Char) : List Char :=
  match padding with
  | .none => cs
  | .zeros => List.replicate (width - cs.length) '0' ++ cs
  | .spaces => List.replicate (width - cs.length) ' ' ++ cs

/-- A number in decimal digits, filled with zeros. -/
def zeroFilled (width n : Nat) : List Char := fill .zeros width (Nat.toDigits 10 n)

/-- A number filled up to a width, sign included. Zeros stand after the sign, spaces before it. -/
def paddedNumber (padding : Padding) (width : Nat) (plus : Bool) (n : Int) : List Char :=
  let sign := if n < 0 then ['-'] else if plus then ['+'] else []
  let digits := Nat.toDigits 10 n.natAbs
  match padding with
  | .spaces => fill .spaces width (sign ++ digits)
  | other => sign ++ fill other (width - sign.length) digits

/-- A number below 256 in two places, the first of which counts on after `9`. -/
def twoPlaces (padding : Padding) (n : Nat) : List Char :=
  let ones := Char.ofNat ('0'.toNat + n % 10)
  match n / 10, padding with
  | 0, .none => [ones]
  | 0, .spaces => [' ', ones]
  | tens, _ => [Char.ofNat ('0'.toNat + tens), ones]

/-- A year: four digits, or a sign and five where four do not suffice. -/
def yearDigits (padding : Padding) (year : Int) : List Char :=
  if 0 ≤ year ∧ year ≤ 9999 then
    paddedNumber (if 1000 ≤ year then .zeros else padding) 4 false year
  else
    paddedNumber padding 5 true year

/-- The number of centuries in a year, kept in one octet. -/
def centuryOf (year : Int) : Nat := (year / 100 % 256).toNat

/-- The year of the century. -/
def yearOfCenturyOf (year : Int) : Nat := (year % 100).toNat

/-- A numeric field of a moment. -/
def NumericField.print (m : Moment) (padding : Padding) : NumericField → List Char
  | .year => yearDigits padding m.date.year
  | .century => twoPlaces padding (centuryOf m.date.year)
  | .yearOfCentury => twoPlaces padding (yearOfCenturyOf m.date.year)
  | .weekYear => yearDigits padding m.weekYear
  | .weekYearOfCentury => twoPlaces padding (yearOfCenturyOf m.weekYear)
  | .month => twoPlaces padding m.date.month
  | .quarter => Nat.toDigits 10 m.quarter
  | .day => twoPlaces padding m.date.day
  | .weekFromSunday => twoPlaces padding (m.weekOfYear m.daysSinceSunday)
  | .weekFromMonday => twoPlaces padding (m.weekOfYear m.daysSinceMonday)
  | .weekOfWeekYear => twoPlaces padding m.weekOfWeekYear
  | .daysSinceSunday => Nat.toDigits 10 m.daysSinceSunday
  | .weekdayFromMonday => Nat.toDigits 10 (m.daysSinceMonday + 1)
  | .ordinal => paddedNumber padding 3 false m.ordinal
  | .hour => twoPlaces padding m.hour
  | .hourOfHalfDay => twoPlaces padding m.hourOfHalfDay
  | .minute => twoPlaces padding m.minute
  | .second => twoPlaces padding m.second
  | .nanosecond => paddedNumber padding 9 false m.instant.nanoseconds
  | .timestamp => paddedNumber padding 9 false m.instant.seconds

/-- The fraction of a second in so many digits, cut off and not rounded. -/
def fractionDigits (nanoseconds digits : Nat) : List Char :=
  (zeroFilled 9 nanoseconds).take digits

/-- A fraction of a second. -/
def FractionField.print (nanoseconds : Nat) : FractionField → List Char
  | .shortest =>
    if nanoseconds = 0 then []
    else if nanoseconds % 1000000 = 0 then '.' :: fractionDigits nanoseconds 3
    else if nanoseconds % 1000 = 0 then '.' :: fractionDigits nanoseconds 6
    else '.' :: fractionDigits nanoseconds 9
  | .fixed digits point =>
    (if point then ['.'] else []) ++ fractionDigits nanoseconds digits

/-- The distance from universal time. Forms without seconds are rounded to the nearest minute, and
the form without minutes is cut off; the sign is that of the whole distance. -/
def OffsetField.print (offset : Int) (field : OffsetField) : List Char :=
  let seconds := offset.natAbs
  let minutes := (seconds + 30) / 60
  let two := zeroFilled 2
  (if offset < 0 then '-' else '+') ::
    match field with
    | .hoursMinutes => two (minutes / 60) ++ two (minutes % 60)
    | .hoursColonMinutes => two (minutes / 60) ++ ':' :: two (minutes % 60)
    | .hoursColonMinutesColonSeconds =>
      two (seconds / 3600) ++ ':' :: two (seconds / 60 % 60) ++ ':' :: two (seconds % 60)
    | .hours => two (seconds / 3600)
    | .zoneName =>
      two (seconds / 3600) ++ ':' :: two (seconds / 60 % 60) ++
        if seconds % 60 = 0 then [] else ':' :: two (seconds % 60)

/-- The names of the months. -/
def monthNames : List String :=
  ["January", "February", "March", "April", "May", "June", "July", "August", "September",
    "October", "November", "December"]

/-- The names of the weekdays, from Sunday. -/
def weekdayNames : List String :=
  ["Sunday", "Monday", "Tuesday", "Wednesday", "Thursday", "Friday", "Saturday"]

/-- The name of the month of a moment. -/
def Moment.monthName (m : Moment) : List Char :=
  ((monthNames[m.date.month - 1]?).getD "").toList

/-- The name of the weekday of a moment. -/
def Moment.weekdayName (m : Moment) : List Char :=
  ((weekdayNames[m.daysSinceSunday]?).getD "").toList

/-- The mark of the half of the day that a moment lies in. -/
def Moment.halfDayMark (m : Moment) (capital : Bool) : List Char :=
  match m.isAfternoon, capital with
  | false, false => ['a', 'm']
  | false, true => ['A', 'M']
  | true, false => ['p', 'm']
  | true, true => ['P', 'M']

/-- What a directive writes for a moment. -/
def Directive.print? (m : Moment) : Directive → Option (List Char)
  | .literal c => some [c]
  | .number field padding => some (field.print m padding)
  | .monthName => some m.monthName
  | .monthAbbreviation => some (m.monthName.take 3)
  | .weekdayName => some m.weekdayName
  | .weekdayAbbreviation => some (m.weekdayName.take 3)
  | .halfDay capital => some (m.halfDayMark capital)
  | .fraction field => some (field.print m.instant.nanoseconds)
  | .offset field => some (field.print m.offset)
  | .permissiveOffset => none

/-- What a pattern writes for a moment. -/
def print? (m : Moment) (directives : List Directive) : Option (List Char) :=
  (directives.mapM (Directive.print? m)).map List.flatten

end TextTemplate.Time
