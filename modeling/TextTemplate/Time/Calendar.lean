/-!
# Calendar

The Gregorian calendar, extended to all years, over days counted from 1 January 1970.

* `Date.ofDays` and `Date.toDays` convert between a day count and year, month and day. Years are
  taken to start in March, so that the leap day is the last day of its year and a month's first
  day follows from its number alone.
* `Moment` is an instant seen at a fixed distance from universal time. Its fields (weekday, day of
  the year, week numbers, time of day) are functions of its day and second.
-/

namespace TextTemplate.Time

/-- A day of the Gregorian calendar. -/
structure Date where
  year : Int
  month : Nat
  day : Nat
deriving DecidableEq, Repr

/-- The length of the 400 years after which the calendar repeats. -/
def daysPerEra : Int := 146097

/-- The day count of 1 March of the year 0, with its sign changed. -/
def daysBeforeEpoch : Int := 719468

/-- The day that lies `days` days after 1 January 1970. -/
def Date.ofDays (days : Int) : Date :=
  let shifted := days + daysBeforeEpoch
  let era := shifted / daysPerEra
  let dayOfEra := (shifted % daysPerEra).toNat
  -- Each correction takes out a leap day, or puts one back, before the days are divided by 365.
  let yearOfEra := (dayOfEra - dayOfEra / 1460 + dayOfEra / 36524 - dayOfEra / 146096) / 365
  let dayOfYear := dayOfEra - (365 * yearOfEra + yearOfEra / 4 - yearOfEra / 100)
  -- From March on, every five months have 153 days.
  let monthFromMarch := (5 * dayOfYear + 2) / 153
  let day := dayOfYear - (153 * monthFromMarch + 2) / 5 + 1
  let month := if monthFromMarch < 10 then monthFromMarch + 3 else monthFromMarch - 9
  { year := yearOfEra + era * 400 + (if month ≤ 2 then 1 else 0), month, day }

/-- The number of days from 1 January 1970 to a date. -/
def Date.toDays (date : Date) : Int :=
  let year := if date.month ≤ 2 then date.year - 1 else date.year
  let era := year / 400
  let yearOfEra := (year % 400).toNat
  let monthFromMarch := if date.month ≤ 2 then date.month + 9 else date.month - 3
  let dayOfYear := (153 * monthFromMarch + 2) / 5 + date.day - 1
  era * daysPerEra + (365 * yearOfEra + yearOfEra / 4 - yearOfEra / 100 + dayOfYear : Nat) -
    daysBeforeEpoch

/-- A point in time, as seconds and nanoseconds after the start of 1970 in universal time. -/
structure Instant where
  seconds : Int
  nanoseconds : Nat
deriving DecidableEq, Repr

/-- The milliseconds since the start of 1970, fractions dropped. -/
def Instant.milliseconds (instant : Instant) : Int :=
  instant.seconds * 1000 + (instant.nanoseconds / 1000000 : Nat)

/-- An instant, seen where local time is `offset` seconds ahead of universal time. -/
structure Moment where
  instant : Instant
  offset : Int
deriving DecidableEq, Repr

namespace Moment

/-- The seconds since the start of 1970 in local time. -/
def localSeconds (m : Moment) : Int := m.instant.seconds + m.offset

/-- The local day, counted from 1 January 1970. -/
def days (m : Moment) : Int := m.localSeconds / 86400

/-- The seconds since local midnight. -/
def secondOfDay (m : Moment) : Nat := (m.localSeconds % 86400).toNat

/-- The local date. -/
def date (m : Moment) : Date := Date.ofDays m.days

/-- The hour, from 0 to 23. -/
def hour (m : Moment) : Nat := m.secondOfDay / 3600

/-- The minute of the hour. -/
def minute (m : Moment) : Nat := m.secondOfDay / 60 % 60

/-- The second of the minute. -/
def second (m : Moment) : Nat := m.secondOfDay % 60

/-- The hour on a dial of twelve. -/
def hourOfHalfDay (m : Moment) : Nat := if m.hour % 12 = 0 then 12 else m.hour % 12

/-- Whether the moment lies in the second half of its day. -/
def isAfternoon (m : Moment) : Bool := 12 ≤ m.hour

/-- The days since the last Sunday; 1 January 1970 was a Thursday. -/
def daysSinceSunday (m : Moment) : Nat := ((m.days + 4) % 7).toNat

/-- The days since the last Monday. -/
def daysSinceMonday (m : Moment) : Nat := ((m.days + 3) % 7).toNat

/-- The day of the year, from 1. -/
def ordinal (m : Moment) : Nat := (m.days - Date.toDays ⟨m.date.year, 1, 1⟩ + 1).toNat

/-- The number of weeks begun in the year, where the days before the first start of a week belong
to week 0; `weekday` counts the days since the last start of a week. -/
def weekOfYear (m : Moment) (weekday : Nat) : Nat := (m.ordinal + 6 - weekday) / 7

/-- The day count of the Thursday in the week that starts on Monday. -/
def thursday (m : Moment) : Int := m.days - m.daysSinceMonday + 3

/-- The year that the week belongs to: the one that holds its Thursday. -/
def weekYear (m : Moment) : Int := (Date.ofDays m.thursday).year

/-- The number of the week in the year that it belongs to. -/
def weekOfWeekYear (m : Moment) : Nat :=
  ((m.thursday - Date.toDays ⟨m.weekYear, 1, 1⟩) / 7 + 1).toNat

/-- The quarter of the year, from 1. -/
def quarter (m : Moment) : Nat := (m.date.month - 1) / 3 + 1

end Moment

end TextTemplate.Time
