import Mathlib.Data.String.Basic
import TextTemplate.Library.Clock
import TextTemplate.Proofs.CivilDates

/-!
# Texts of the clock

The texts that `__time` writes for one moment tell the same time.

* `LocalTime` is a date with a time of day; `LocalTime.seconds` counts the seconds from 1970 to it,
  and `LocalTime.read?` reads it from a text such as `20240309-140507`.
* `Moment.exists_localTime`: the fields of a moment are a local time, and the one that its seconds
  lead to.
* `LocalTime.text_lt_iff`: the texts of local times are in the order of their seconds.
* `time_views` puts together what `__time` answers with no format, `/1000`, `YMD`, `HMS` and
  `YMDHMS`.
-/

namespace TextTemplate.Time

/-! ## Pairs of digits -/

/-- A number below 100 in two digits. -/
def pair (n : Nat) : List Char := [Nat.digitChar (n / 10), Nat.digitChar (n % 10)]

/-- Numbers below 100 in two digits each. -/
def pairs (ns : List Nat) : List Char := ns.flatMap pair

theorem digitChar_lt_iff :
    ∀ m < 10, ∀ n < 10, (Nat.digitChar m < Nat.digitChar n ↔ m < n) ∧
      (Nat.digitChar m = Nat.digitChar n ↔ m = n) := by
  decide

theorem pair_append_lt_iff {m n : Nat} (hm : m < 100) (hn : n < 100) {cs ds : List Char} :
    pair m ++ cs < pair n ++ ds ↔ m < n ∨ m = n ∧ cs < ds := by
  obtain ⟨htensLt, htensEq⟩ := digitChar_lt_iff (m / 10) (by omega) (n / 10) (by omega)
  obtain ⟨honesLt, honesEq⟩ := digitChar_lt_iff (m % 10) (by omega) (n % 10) (by omega)
  simp only [pair, List.cons_append, List.nil_append, List.cons_lt_cons_iff, htensLt, htensEq,
    honesLt, honesEq]
  by_cases hrest : cs < ds
  · simp only [hrest, and_true]
    omega
  · simp only [hrest, and_false, or_false]
    omega

/-- Of two lists of numbers of the same length, the smaller one has the smaller digits. -/
theorem pairs_append_lt_iff {ms ns : List Nat} (hlength : ms.length = ns.length)
    (hms : ∀ m ∈ ms, m < 100) (hns : ∀ n ∈ ns, n < 100) {cs ds : List Char} :
    pairs ms ++ cs < pairs ns ++ ds ↔ ms < ns ∨ ms = ns ∧ cs < ds := by
  induction ms generalizing ns with
  | nil =>
    obtain rfl := List.length_eq_zero_iff.mp hlength.symm
    simp [pairs]
  | cons m ms ih =>
    cases ns with
    | nil => cases hlength
    | cons n ns =>
      rw [List.forall_mem_cons] at hms hns
      have htail := ih (Nat.succ.inj hlength) hms.2 hns.2
      simp only [pairs] at htail
      simp only [pairs, List.flatMap_cons, List.append_assoc, pair_append_lt_iff hms.1 hns.1,
        htail, List.cons_lt_cons_iff, List.cons.injEq]
      tauto

theorem eq_iff_of_lt_iff {α β : Type} [LinearOrder α] [LinearOrder β] {a a' : α} {b b' : β}
    (hlt : a < a' ↔ b < b') (hgt : a' < a ↔ b' < b) : a = a' ↔ b = b' := by
  rw [eq_iff_le_not_lt, eq_iff_le_not_lt, ← not_lt, ← not_lt, hlt, hgt]

/-- A number written in digits only. -/
def decimal? (cs : List Char) : Option Nat :=
  if cs.all Char.isDigit then some (Nat.ofDigitChars 10 cs 0) else none

theorem digitChar_value :
    ∀ d < 10, (Nat.digitChar d).isDigit = true ∧ (Nat.digitChar d).toNat - '0'.toNat = d := by
  decide

theorem decimal?_pair {n : Nat} (h : n < 100) : decimal? (pair n) = some n := by
  obtain ⟨htens, htensValue⟩ := digitChar_value (n / 10) (by omega)
  obtain ⟨hones, honesValue⟩ := digitChar_value (n % 10) (by omega)
  simp only [decimal?, pair, List.all_cons, List.all_nil, htens, hones, Nat.ofDigitChars,
    List.foldl_cons, List.foldl_nil, htensValue, honesValue]
  simp
  omega

theorem decimal?_pair_append_pair {n : Nat} (h : n < 10000) :
    decimal? (pair (n / 100) ++ pair (n % 100)) = some n := by
  obtain ⟨h₁, hvalue₁⟩ := digitChar_value (n / 100 / 10) (by omega)
  obtain ⟨h₂, hvalue₂⟩ := digitChar_value (n / 100 % 10) (by omega)
  obtain ⟨h₃, hvalue₃⟩ := digitChar_value (n % 100 / 10) (by omega)
  obtain ⟨h₄, hvalue₄⟩ := digitChar_value (n % 100 % 10) (by omega)
  simp only [decimal?, pair, List.cons_append, List.nil_append, List.all_cons, List.all_nil, h₁,
    h₂, h₃, h₄, Nat.ofDigitChars, List.foldl_cons, List.foldl_nil, hvalue₁, hvalue₂, hvalue₃,
    hvalue₄]
  simp
  omega

theorem twoPlaces_eq_pair : ∀ n < 100, twoPlaces .zeros n = pair n := by
  decide

/-- A year of four digits is its century and the year in it. -/
theorem yearDigits_eq {year : Nat} (h : 1000 ≤ year) (h' : year ≤ 9999) :
    yearDigits .zeros year = pair (year / 100) ++ pair (year % 100) := by
  have hdigits : Nat.toDigits 10 year = pair (year / 100) ++ pair (year % 100) := by
    rw [Nat.toDigits_of_base_le (by decide) (by omega : 10 ≤ year),
      Nat.toDigits_of_base_le (by decide) (by omega : 10 ≤ year / 10),
      Nat.toDigits_of_base_le (by decide) (by omega : 10 ≤ year / 10 / 10),
      Nat.toDigits_of_lt_base (by omega : year / 10 / 10 / 10 < 10)]
    have h₁ : year / 10 / 10 / 10 = year / 100 / 10 := by omega
    have h₂ : year / 10 / 10 % 10 = year / 100 % 10 := by omega
    have h₃ : year / 10 % 10 = year % 100 / 10 := by omega
    have h₄ : year % 10 = year % 100 % 10 := by omega
    rw [h₁, h₂, h₃, h₄]
    rfl
  have hrange : 0 ≤ (year : Int) ∧ (year : Int) ≤ 9999 := by omega
  have hfour : 1000 ≤ (year : Int) := by omega
  have hsign : ¬ (year : Int) < 0 := by omega
  rw [yearDigits, if_pos hrange, if_pos hfour]
  simp only [paddedNumber, if_neg hsign, Int.natAbs_natCast, hdigits]
  rfl

/-! ## Local times -/

/-- A date with a time of day. -/
structure LocalTime where
  year : Nat
  month : Nat
  day : Nat
  hour : Nat
  minute : Nat
  second : Nat
deriving DecidableEq

namespace LocalTime

/-- A time of day on a date of the calendar. -/
structure IsValid (t : LocalTime) : Prop where
  isCivil : IsCivil t.year t.month t.day
  hour_lt : t.hour < 24
  minute_lt : t.minute < 60
  second_lt : t.second < 60

/-- The seconds since midnight. -/
def secondOfDay (t : LocalTime) : Nat := t.hour * 3600 + t.minute * 60 + t.second

/-- The seconds from the start of 1970 to a time on the same clock. -/
def seconds (t : LocalTime) : Int :=
  ((dayNumber t.year t.month t.day : Int) - dayNumber 1970 1 1) * 86400 + t.secondOfDay

/-- The local time that a text reads as: year, month and day, a dash, and hour, minute and second,
all in decimal digits. -/
def read? : List Char → Option LocalTime
  | [y₁, y₂, y₃, y₄, m₁, m₂, d₁, d₂, '-', h₁, h₂, n₁, n₂, s₁, s₂] => do
    let year ← decimal? [y₁, y₂, y₃, y₄]
    let month ← decimal? [m₁, m₂]
    let day ← decimal? [d₁, d₂]
    let hour ← decimal? [h₁, h₂]
    let minute ← decimal? [n₁, n₂]
    let second ← decimal? [s₁, s₂]
    return { year, month, day, hour, minute, second }
  | _ => none

example : read? "20240229-235960".toList = some ⟨2024, 2, 29, 23, 59, 60⟩ := by decide

/-- The date in numbers below 100. -/
def dateParts (t : LocalTime) : List Nat := [t.year / 100, t.year % 100, t.month, t.day]

/-- The time of day in numbers below 100. -/
def clockParts (t : LocalTime) : List Nat := [t.hour, t.minute, t.second]

/-- The compact form of a local time. -/
def text (t : LocalTime) : List Char := pairs t.dateParts ++ '-' :: pairs t.clockParts

variable {t t' : LocalTime}

namespace IsValid

theorem day_lt (h : t.IsValid) : t.day < 32 := by
  have hle : monthLength t.year t.month ≤ 31 := by
    unfold monthLength
    split <;> (try split) <;> omega
  exact Nat.lt_succ_of_le (Nat.le_trans h.isCivil.day_le hle)

theorem secondOfDay_lt (h : t.IsValid) : t.secondOfDay < 86400 := by
  have hhour := h.hour_lt
  have hminute := h.minute_lt
  have hsecond := h.second_lt
  rw [secondOfDay]
  omega

theorem dateParts_lt (h : t.IsValid) (hyear : t.year ≤ 9999) : ∀ n ∈ t.dateParts, n < 100 := by
  have hmonth := h.isCivil.month_le
  have hday := h.day_lt
  simp only [dateParts, List.forall_mem_cons, List.not_mem_nil, false_implies, implies_true,
    and_true]
  omega

theorem clockParts_lt (h : t.IsValid) : ∀ n ∈ t.clockParts, n < 100 := by
  have hhour := h.hour_lt
  have hminute := h.minute_lt
  have hsecond := h.second_lt
  simp only [clockParts, List.forall_mem_cons, List.not_mem_nil, false_implies, implies_true,
    and_true]
  omega

/-- The compact form reads as the local time that it was written for. -/
theorem read?_text (h : t.IsValid) (hyear : t.year ≤ 9999) : read? t.text = some t := by
  have hdate := h.dateParts_lt hyear
  have hclock := h.clockParts_lt
  simp only [dateParts, clockParts, List.forall_mem_cons] at hdate hclock
  have hyear' := decimal?_pair_append_pair (Nat.lt_succ_of_le hyear)
  have hmonth := decimal?_pair hdate.2.2.1
  have hday := decimal?_pair hdate.2.2.2.1
  have hhour := decimal?_pair hclock.1
  have hminute := decimal?_pair hclock.2.1
  have hsecond := decimal?_pair hclock.2.2.1
  simp only [pair, List.cons_append, List.nil_append] at hyear' hmonth hday hhour hminute hsecond
  simp only [text, pairs, dateParts, clockParts, pair, List.flatMap_cons, List.flatMap_nil,
    List.cons_append, List.nil_append, read?, hyear', hmonth, hday, hhour, hminute, hsecond]
  rfl

end IsValid

/-! ## The order of local times -/

theorem dateParts_lt_iff (h : t.IsValid) (h' : t'.IsValid) :
    t.dateParts < t'.dateParts ↔
      dayNumber t.year t.month t.day < dayNumber t'.year t'.month t'.day := by
  rw [dayNumber_lt_iff h.isCivil h'.isCivil]
  simp only [dateParts, List.cons_lt_cons_iff, List.lt_irrefl, and_false, or_false]
  omega

theorem clockParts_lt_iff (h : t.IsValid) (h' : t'.IsValid) :
    t.clockParts < t'.clockParts ↔ t.secondOfDay < t'.secondOfDay := by
  have hminute := h.minute_lt
  have hsecond := h.second_lt
  have hminute' := h'.minute_lt
  have hsecond' := h'.second_lt
  simp only [clockParts, List.cons_lt_cons_iff, List.lt_irrefl, and_false, or_false, secondOfDay]
  omega

theorem dateParts_eq_iff (h : t.IsValid) (h' : t'.IsValid) :
    t.dateParts = t'.dateParts ↔
      dayNumber t.year t.month t.day = dayNumber t'.year t'.month t'.day :=
  eq_iff_of_lt_iff (dateParts_lt_iff h h') (dateParts_lt_iff h' h)

/-- The texts of local times are in the order of their seconds. -/
theorem text_lt_iff (h : t.IsValid) (h' : t'.IsValid) (hyear : t.year ≤ 9999)
    (hyear' : t'.year ≤ 9999) : t.text < t'.text ↔ t.seconds < t'.seconds := by
  -- The dates decide, and the times of day only between equal dates.
  have hdateLength : t.dateParts.length = t'.dateParts.length := rfl
  have hclockLength : t.clockParts.length = t'.clockParts.length := rfl
  have hclock : pairs t.clockParts ++ [] < pairs t'.clockParts ++ [] ↔
      t.secondOfDay < t'.secondOfDay := by
    rw [pairs_append_lt_iff hclockLength h.clockParts_lt h'.clockParts_lt, clockParts_lt_iff h h']
    simp only [List.lt_irrefl, and_false, or_false]
  rw [List.append_nil, List.append_nil] at hclock
  rw [text, text, pairs_append_lt_iff hdateLength (h.dateParts_lt hyear) (h'.dateParts_lt hyear'),
    List.cons_lt_cons_self, hclock, dateParts_lt_iff h h', dateParts_eq_iff h h', seconds, seconds]
  have hlt := h.secondOfDay_lt
  have hlt' := h'.secondOfDay_lt
  omega

/-- Local times with the same text lie the same number of seconds from 1970. -/
theorem text_eq_iff (h : t.IsValid) (h' : t'.IsValid) (hyear : t.year ≤ 9999)
    (hyear' : t'.year ≤ 9999) : t.text = t'.text ↔ t.seconds = t'.seconds :=
  eq_iff_of_lt_iff (text_lt_iff h h' hyear hyear') (text_lt_iff h' h hyear' hyear)

end LocalTime

/-! ## The local time of a moment -/

/-- The local day lies in one of the years from 1000 to 9999. -/
def Moment.InFourDigitYear (m : Moment) : Prop :=
  dayNumber 1000 1 1 ≤ m.days + dayNumber 1970 1 1 ∧
    m.days + dayNumber 1970 1 1 < dayNumber 10000 1 1

theorem Moment.inFourDigitYear_iff {m : Moment} :
    m.InFourDigitYear ↔ -354285 ≤ m.days ∧ m.days < 2932897 := by
  rw [InFourDigitYear, dayNumber_first, dayNumber_first, dayNumber_first, daysBeforeYear_eq,
    daysBeforeYear_eq, daysBeforeYear_eq]
  omega

/-- The fields of a moment are those of a local time. -/
structure Moment.Shows (m : Moment) (t : LocalTime) : Prop where
  date : m.date = ⟨t.year, t.month, t.day⟩
  hour : m.hour = t.hour
  minute : m.minute = t.minute
  second : m.second = t.second

/-- In a year of four digits, a moment shows a local time, and the one that its seconds lead to. -/
theorem Moment.exists_localTime {m : Moment} (h : m.InFourDigitYear) :
    ∃ t : LocalTime, m.Shows t ∧ t.IsValid ∧ 1000 ≤ t.year ∧ t.year ≤ 9999 ∧
      t.seconds = m.localSeconds := by
  obtain ⟨year, month, day, hdate, hcivil, hnumber⟩ : ∃ year month day : Nat,
      Date.ofDays m.days = ⟨year, month, day⟩ ∧ IsCivil year month day ∧
        (dayNumber year month day : Int) = m.days + dayNumber 1970 1 1 := by
    have hdays := (Moment.inFourDigitYear_iff.mp h).1
    refine Date.ofDays_counts ?_
    rw [daysBeforeEpoch]
    omega
  obtain ⟨hfrom, hbefore⟩ := h
  have hfour : ¬ year < 1000 := by
    rw [← hcivil.dayNumber_lt_daysBeforeYear_iff, ← dayNumber_first]
    omega
  have hfour' : year < 10000 := by
    rw [← hcivil.dayNumber_lt_daysBeforeYear_iff, ← dayNumber_first]
    omega
  have hsecond : m.secondOfDay < 86400 := by
    rw [Moment.secondOfDay]
    omega
  refine ⟨⟨year, month, day, m.hour, m.minute, m.second⟩, ⟨hdate, rfl, rfl, rfl⟩,
    ⟨hcivil, ?_, ?_, ?_⟩, Nat.le_of_not_lt hfour, Nat.le_of_lt_succ hfour', ?_⟩
  · show m.secondOfDay / 3600 < 24
    omega
  · show m.secondOfDay / 60 % 60 < 60
    omega
  · show m.secondOfDay % 60 < 60
    omega
  · simp only [LocalTime.seconds, LocalTime.secondOfDay, Moment.hour, Moment.minute,
      Moment.second, hnumber, Moment.days, Moment.secondOfDay]
    omega

end TextTemplate.Time

namespace TextTemplate.Library

open Time (Moment LocalTime Instant)

/-! ## Formats -/

section Formats

variable {m : Moment} {t : LocalTime}

theorem formatTime_eq {format pattern : String} {directives : List Time.Directive}
    {text : List Char} (hformat : format ≠ "") (hformat' : format ≠ "/1000")
    (hpattern : (patternNames.lookup format).getD format = pattern)
    (hparse : Time.Pattern.parse? pattern.toList = some directives)
    (hprint : Time.print? m directives = some text) :
    formatTime m format = .ok (String.ofList text) := by
  simp only [formatTime, if_neg hformat, if_neg hformat', hpattern, hparse, hprint]

theorem print?_cons {directive : Time.Directive} {directives : List Time.Directive}
    {cs text : List Char} (h : directive.print? m = some cs)
    (hrest : Time.print? m directives = some text) :
    Time.print? m (directive :: directives) = some (cs ++ text) := by
  obtain ⟨texts, htexts, rfl⟩ := Option.map_eq_some_iff.mp hrest
  simp [Time.print?, List.mapM_cons, h, htexts]

theorem print?_year (h : m.Shows t) (hfrom : 1000 ≤ t.year) (hto : t.year ≤ 9999) :
    (Time.Directive.number .year .zeros).print? m =
      some (Time.pairs [t.year / 100, t.year % 100]) := by
  rw [Time.Directive.print?, Time.NumericField.print, h.date, Time.yearDigits_eq hfrom hto]
  rfl

theorem print?_twoPlaces {field : Time.NumericField} {n : Nat}
    (hfield : field.print m .zeros = Time.twoPlaces .zeros n) (hn : n < 100) :
    (Time.Directive.number field .zeros).print? m = some (Time.pair n) := by
  rw [Time.Directive.print?, hfield, Time.twoPlaces_eq_pair n hn]

/-- The date, followed by what other directives write. -/
theorem print?_date (h : m.Shows t) (hvalid : t.IsValid) (hfrom : 1000 ≤ t.year)
    (hto : t.year ≤ 9999) {directives : List Time.Directive} {text : List Char}
    (hrest : Time.print? m directives = some text) :
    Time.print? m ([.number .year .zeros, .number .month .zeros, .number .day .zeros] ++
      directives) = some (Time.pairs t.dateParts ++ text) := by
  have hparts := hvalid.dateParts_lt hto
  simp only [LocalTime.dateParts, List.forall_mem_cons] at hparts
  have hmonth : (Time.Directive.number .month .zeros).print? m = some (Time.pair t.month) :=
    print?_twoPlaces (by rw [Time.NumericField.print, h.date]) hparts.2.2.1
  have hday : (Time.Directive.number .day .zeros).print? m = some (Time.pair t.day) :=
    print?_twoPlaces (by rw [Time.NumericField.print, h.date]) hparts.2.2.2.1
  have hdate :=
    print?_cons (print?_year h hfrom hto) (print?_cons hmonth (print?_cons hday hrest))
  exact hdate

theorem print?_clock (h : m.Shows t) (hvalid : t.IsValid) :
    Time.print? m [.number .hour .zeros, .number .minute .zeros, .number .second .zeros] =
      some (Time.pairs t.clockParts) := by
  have hparts := hvalid.clockParts_lt
  simp only [LocalTime.clockParts, List.forall_mem_cons] at hparts
  have hhour : (Time.Directive.number .hour .zeros).print? m = some (Time.pair t.hour) :=
    print?_twoPlaces (by rw [Time.NumericField.print, h.hour]) hparts.1
  have hminute : (Time.Directive.number .minute .zeros).print? m = some (Time.pair t.minute) :=
    print?_twoPlaces (by rw [Time.NumericField.print, h.minute]) hparts.2.1
  have hsecond : (Time.Directive.number .second .zeros).print? m = some (Time.pair t.second) :=
    print?_twoPlaces (by rw [Time.NumericField.print, h.second]) hparts.2.2.1
  exact print?_cons hhour (print?_cons hminute (print?_cons hsecond rfl))

theorem formatTime_date (h : m.Shows t) (hvalid : t.IsValid) (hfrom : 1000 ≤ t.year)
    (hto : t.year ≤ 9999) :
    formatTime m "YMD" = .ok (String.ofList (Time.pairs t.dateParts)) := by
  have hprint := print?_date h hvalid hfrom hto (rfl : Time.print? m [] = some [])
  rw [List.append_nil] at hprint
  exact formatTime_eq (by decide) (by decide) rfl rfl hprint

theorem formatTime_clock (h : m.Shows t) (hvalid : t.IsValid) :
    formatTime m "HMS" = .ok (String.ofList (Time.pairs t.clockParts)) :=
  formatTime_eq (by decide) (by decide) rfl rfl (print?_clock h hvalid)

theorem formatTime_text (h : m.Shows t) (hvalid : t.IsValid) (hfrom : 1000 ≤ t.year)
    (hto : t.year ≤ 9999) : formatTime m "YMDHMS" = .ok (String.ofList t.text) := by
  have hdash : (Time.Directive.literal '-').print? m = some ['-'] := rfl
  have hprint := print?_date h hvalid hfrom hto (print?_cons hdash (print?_clock h hvalid))
  exact formatTime_eq (by decide) (by decide) rfl rfl hprint

end Formats

/-! ## The answers of the clock -/

/-- What `__time` answers to a call with other arguments. -/
def timeAnswer (call : Call) (arguments : List String) : Except InvocationError String :=
  (time.run { call with arguments } ()).result

theorem timeAnswer_eq {call : Call} {format text : String} (hformat : Text.trim format = format)
    (h : formatTime call.scene.world.moment format = .ok text) :
    timeAnswer call [format] = .ok text := by
  have hargument : Text.trim (Call.argument { call with arguments := [format] } 0) = format :=
    hformat
  simp only [timeAnswer, time, Routine.stateless, Call.reply, hargument, h]

/-- Without a format, `__time` counts milliseconds. -/
theorem timeAnswer_nil (call : Call) :
    timeAnswer call [] = .ok (toString call.scene.world.now.milliseconds) := by
  have hargument : Text.trim (Call.argument { call with arguments := [] } 0) = "" := by
    show Text.trim "" = ""
    decide
  simp only [timeAnswer, time, Routine.stateless, Call.reply, hargument]
  rfl

theorem timeAnswer_seconds (call : Call) :
    timeAnswer call ["/1000"] = .ok (toString call.scene.world.now.seconds) :=
  timeAnswer_eq (by decide) rfl

/-- A fraction of a second adds no second to the milliseconds. -/
theorem milliseconds_div {now : Instant} (h : now.nanoseconds < 1000000000) :
    now.milliseconds / 1000 = now.seconds := by
  rw [Time.Instant.milliseconds]
  omega

/-- The call is in one of the years from 1000 to 9999, and its clock is well-formed. -/
structure SeesFourDigitYear (call : Call) : Prop where
  inFourDigitYear : call.scene.world.moment.InFourDigitYear
  nanoseconds_lt : call.scene.world.now.nanoseconds < 1000000000

/-- What a call is answered tells one time: `text` is the long text, and so many seconds have passed
since the start of 1970 in universal time. -/
structure TellsTime (call : Call) (text : String) (seconds : Int) : Prop where
  text_eq : timeAnswer call ["YMDHMS"] = .ok text
  seconds_eq : timeAnswer call ["/1000"] = .ok (toString seconds)
  /-- The long text is put together from the date and the time of day. -/
  date_and_clock : ∃ date clock : String,
    timeAnswer call ["YMD"] = .ok date ∧ timeAnswer call ["HMS"] = .ok clock ∧
      text = date ++ "-" ++ clock
  /-- The long text reads as the local time of that second. -/
  reading : ∃ t, LocalTime.read? text.toList = some t ∧ t.IsValid ∧
    t.seconds - call.scene.world.utcOffset = seconds
  /-- The milliseconds are those of that second. -/
  milliseconds : ∃ milliseconds : Int,
    timeAnswer call [] = .ok (toString milliseconds) ∧ milliseconds / 1000 = seconds

theorem exists_tellsTime {call : Call} (h : SeesFourDigitYear call) :
    ∃ t : LocalTime, t.IsValid ∧ t.year ≤ 9999 ∧
      t.seconds = call.scene.world.now.seconds + call.scene.world.utcOffset ∧
      TellsTime call (String.ofList t.text) call.scene.world.now.seconds := by
  obtain ⟨t, hshows, hvalid, hfrom, hto, hseconds⟩ :=
    Time.Moment.exists_localTime h.inFourDigitYear
  have hlocal : t.seconds = call.scene.world.now.seconds + call.scene.world.utcOffset := hseconds
  refine ⟨t, hvalid, hto, hlocal, ?_, timeAnswer_seconds call, ?_, ?_, ?_⟩
  · exact timeAnswer_eq (by decide) (formatTime_text hshows hvalid hfrom hto)
  · refine ⟨_, _, timeAnswer_eq (by decide) (formatTime_date hshows hvalid hfrom hto),
      timeAnswer_eq (by decide) (formatTime_clock hshows hvalid), ?_⟩
    rw [← String.toList_inj]
    simp [LocalTime.text]
  · refine ⟨t, ?_, hvalid, by omega⟩
    rw [String.toList_ofList]
    exact hvalid.read?_text hto
  · exact ⟨_, timeAnswer_nil call, milliseconds_div h.nanoseconds_lt⟩

/-- In the years from 1000 to 9999, the answers to one call tell one time, that of its second, and
under one distance from universal time the long texts are ordered as the seconds are. -/
theorem time_views {call call' : Call} (h : SeesFourDigitYear call) (h' : SeesFourDigitYear call')
    (hoffset : call'.scene.world.utcOffset = call.scene.world.utcOffset) :
    let seconds := call.scene.world.now.seconds
    let seconds' := call'.scene.world.now.seconds
    ∃ text text', TellsTime call text seconds ∧ TellsTime call' text' seconds' ∧
      (text < text' ↔ seconds < seconds') ∧ (text = text' ↔ seconds = seconds') := by
  intro seconds seconds'
  obtain ⟨t, hvalid, hyear, hseconds, htells⟩ := exists_tellsTime h
  obtain ⟨t', hvalid', hyear', hseconds', htells'⟩ := exists_tellsTime h'
  refine ⟨_, _, htells, htells', ?_, ?_⟩
  · rw [String.lt_iff_toList_lt, String.toList_ofList, String.toList_ofList,
      LocalTime.text_lt_iff hvalid hvalid' hyear hyear']
    omega
  · rw [String.ofList_inj, LocalTime.text_eq_iff hvalid hvalid' hyear hyear']
    omega

/-- A call at a second of universal time, under a distance from it. -/
def callAt (seconds utcOffset : Int) : Call :=
  { scene := ⟨{}, ⟨⟨seconds, 0⟩, utcOffset, fun _ => .error .notFound⟩⟩, arguments := [],
    shared := 0, entropy := ⟨0⟩ }

theorem seesFourDigitYear_callAt {seconds utcOffset : Int}
    (h : -354285 ≤ (seconds + utcOffset) / 86400 ∧ (seconds + utcOffset) / 86400 < 2932897) :
    SeesFourDigitYear (callAt seconds utcOffset) :=
  ⟨Moment.inFourDigitYear_iff.mpr h, (by decide : 0 < 1000000000)⟩

example : timeAnswer (callAt 1735685999 3600) ["YMDHMS"] = .ok "20241231-235959" := by decide

/-- The last second of a year and the first of the next, an hour before they are reached in
universal time. -/
theorem time_views_new_year :
    SeesFourDigitYear (callAt 1735685999 3600) ∧ SeesFourDigitYear (callAt 1735686000 3600) ∧
    ∃ text text', TellsTime (callAt 1735685999 3600) text 1735685999 ∧
      TellsTime (callAt 1735686000 3600) text' 1735686000 ∧
      (text < text' ↔ (1735685999 : Int) < 1735686000) ∧
      (text = text' ↔ (1735685999 : Int) = 1735686000) := by
  have hlast : SeesFourDigitYear (callAt 1735685999 3600) :=
    seesFourDigitYear_callAt (by decide)
  have hfirst : SeesFourDigitYear (callAt 1735686000 3600) :=
    seesFourDigitYear_callAt (by decide)
  exact ⟨hlast, hfirst, time_views hlast hfirst rfl⟩

end TextTemplate.Library
