import Mathlib.Tactic.IntervalCases
import TextTemplate.Time.Calendar

/-!
# Civil dates

The date of a day is the one that is reached by counting.

* `daysBeforeYear` and `daysBeforeMonth` count the days of whole years and months, and `dayNumber`
  those before a date.
* `Date.ofDays_counts`: from the year 0 on, `Date.ofDays` gives the date before which there are so
  many days, and a date of the calendar.
* `dayNumber_lt_iff`: days follow each other as years, months and days of their dates do.
-/

namespace TextTemplate.Time

/-! ## Counting days -/

/-- Whether a year has a leap day. -/
def isLeapYear (year : Nat) : Bool := year % 4 = 0 && (year % 100 ≠ 0 || year % 400 = 0)

/-- The number of days of a month. -/
def monthLength (year : Nat) : Nat → Nat
  | 1 | 3 | 5 | 7 | 8 | 10 | 12 => 31
  | 4 | 6 | 9 | 11 => 30
  | 2 => if isLeapYear year then 29 else 28
  | _ => 0

/-- The number of days of a year. -/
def yearLength (year : Nat) : Nat := if isLeapYear year then 366 else 365

/-- The number of days from the start of the year 0 to the start of a year. -/
def daysBeforeYear : Nat → Nat
  | 0 => 0
  | year + 1 => daysBeforeYear year + yearLength year

/-- The number of days from the start of a year to the start of a month. -/
def daysBeforeMonth (year : Nat) : Nat → Nat
  | 0 => 0
  | month + 1 => daysBeforeMonth year month + monthLength year month

/-- The number of days from the start of the year 0 to a date. -/
def dayNumber (year month day : Nat) : Nat :=
  daysBeforeYear year + daysBeforeMonth year month + (day - 1)

/-- A date that is in the calendar. -/
structure IsCivil (year month day : Nat) : Prop where
  one_le_month : 1 ≤ month
  month_le : month ≤ 12
  one_le_day : 1 ≤ day
  day_le : day ≤ monthLength year month

theorem isLeapYear_iff (year : Nat) :
    isLeapYear year = true ↔ year % 4 = 0 ∧ (year % 100 ≠ 0 ∨ year % 400 = 0) := by
  simp [isLeapYear]

/-- Every fourth year has a leap day, but for the centuries that are no multiple of 400. -/
theorem yearLength_eq (year : Nat) :
    yearLength year + (if year % 100 = 0 then 1 else 0) =
      365 + (if year % 4 = 0 then 1 else 0) + (if year % 400 = 0 then 1 else 0) := by
  have hleap := isLeapYear_iff year
  by_cases h : isLeapYear year = true
  · have hyear := hleap.mp h
    rw [yearLength, if_pos h, if_pos hyear.1]
    split <;> split <;> omega
  · have hyear := mt hleap.mpr h
    rw [yearLength, if_neg h]
    split <;> split <;> split <;> omega

/-- So many leap days lie before a year. -/
theorem daysBeforeYear_eq (year : Nat) :
    daysBeforeYear year = 365 * year + (year + 3) / 4 - (year + 99) / 100 + (year + 399) / 400 := by
  induction year with
  | zero => rfl
  | succ year ih =>
    have hlength := yearLength_eq year
    have hfour : (year + 1 + 3) / 4 = (year + 3) / 4 + if year % 4 = 0 then 1 else 0 := by
      split <;> omega
    have hhundred :
        (year + 1 + 99) / 100 = (year + 99) / 100 + if year % 100 = 0 then 1 else 0 := by
      split <;> omega
    have hfourHundred :
        (year + 1 + 399) / 400 = (year + 399) / 400 + if year % 400 = 0 then 1 else 0 := by
      split <;> omega
    have hle : (year + 99) / 100 ≤ (year + 3) / 4 := by omega
    rw [daysBeforeYear, ih, hfour, hhundred, hfourHundred]
    omega

theorem dayNumber_first (year : Nat) : dayNumber year 1 1 = daysBeforeYear year := rfl

/-! ## Years that start in March -/

/-- From 1 March on, the rest of a year has 306 days, leap year or not. -/
theorem daysBeforeYear_succ (year : Nat) :
    daysBeforeYear (year + 1) = dayNumber year 3 1 + 306 := by
  simp only [daysBeforeYear, dayNumber, daysBeforeMonth, monthLength, yearLength]
  split <;> omega

theorem dayNumber_march (year : Nat) :
    dayNumber year 3 1 = 60 + 365 * year + year / 4 - year / 100 + year / 400 := by
  have hnext := daysBeforeYear_succ year
  have hfour : (year + 1 + 3) / 4 = year / 4 + 1 := by omega
  have hhundred : (year + 1 + 99) / 100 = year / 100 + 1 := by omega
  have hfourHundred : (year + 1 + 399) / 400 = year / 400 + 1 := by omega
  rw [daysBeforeYear_eq, hfour, hhundred, hfourHundred] at hnext
  omega

/-- From March on, every five months have 153 days. -/
theorem months_from_march (year : Nat) {m : Nat} (hm : m ≤ 9) :
    daysBeforeMonth year (m + 3) = daysBeforeMonth year 3 + (153 * m + 2) / 5 ∧
      (153 * m + 2) / 5 + monthLength year (m + 3) = (153 * (m + 1) + 2) / 5 := by
  interval_cases m <;> exact ⟨rfl, rfl⟩

/-- The date that lies `k` days after 1 March of a year, before the next 1 March. -/
def civilOfMarch (year k : Nat) : Date :=
  let monthFromMarch := (5 * k + 2) / 153
  let day := k - (153 * monthFromMarch + 2) / 5 + 1
  let month := if monthFromMarch < 10 then monthFromMarch + 3 else monthFromMarch - 9
  { year := (year + (if month ≤ 2 then 1 else 0) : Nat), month, day }

theorem civilOfMarch_counts {year k : Nat}
    (hk : k ≤ 364 ∨ (k = 365 ∧ isLeapYear (year + 1) = true)) :
    ∃ y m d : Nat, civilOfMarch year k = ⟨y, m, d⟩ ∧ IsCivil y m d ∧
      dayNumber y m d = dayNumber year 3 1 + k := by
  refine ⟨_, _, _, rfl, ?_⟩
  have hm : (5 * k + 2) / 153 ≤ 9 ∨ (5 * k + 2) / 153 = 10 ∨ (5 * k + 2) / 153 = 11 := by omega
  rcases hm with hm | hm | hm
  · obtain ⟨hbefore, hlength⟩ := months_from_march year hm
    have hlt : (5 * k + 2) / 153 < 10 := by omega
    have hlate : ¬ (5 * k + 2) / 153 + 3 ≤ 2 := by omega
    simp only [if_pos hlt, if_neg hlate, Nat.add_zero]
    refine ⟨⟨by omega, by omega, by omega, by omega⟩, ?_⟩
    rw [dayNumber, hbefore, dayNumber]
    omega
  · -- January of the next year.
    rw [hm]
    refine ⟨⟨by decide, by decide, by omega, ?_⟩, ?_⟩
    · show _ ≤ 31
      omega
    · show daysBeforeYear (year + 1) + 0 + _ = _
      rw [daysBeforeYear_succ]
      omega
  · -- February of the next year.
    rw [hm]
    refine ⟨⟨by decide, by decide, by omega, ?_⟩, ?_⟩
    · show _ ≤ if isLeapYear (year + 1) then 29 else 28
      rcases hk with hk | ⟨hk, hleap⟩
      · split <;> omega
      · rw [if_pos hleap]
        omega
    · show daysBeforeYear (year + 1) + 31 + _ = _
      rw [daysBeforeYear_succ]
      omega

/-- How many days of an era lie before a day of it, taken apart into centuries, spans of four years,
years, and days. Only the last of four years can have a leap day, and not that of a century. -/
theorem exists_day_of_era {n : Nat} (h : n < 146097) :
    ∃ c q y k, c ≤ 3 ∧ q ≤ 24 ∧ y ≤ 3 ∧
      (k ≤ 364 ∨ (k = 365 ∧ y = 3 ∧ (q = 24 → c = 3))) ∧
      n = 36524 * c + 1461 * q + 365 * y + k := by
  obtain ⟨c, r, hc, hr, hn⟩ :
      ∃ c r, c ≤ 3 ∧ (r ≤ 36523 ∨ c = 3 ∧ r = 36524) ∧ n = 36524 * c + r :=
    ⟨min (n / 36524) 3, n - 36524 * min (n / 36524) 3, by omega⟩
  obtain ⟨q, t, hq, ht, hr'⟩ : ∃ q t, q ≤ 24 ∧ t ≤ 1460 ∧ r = 1461 * q + t :=
    ⟨r / 1461, r % 1461, by omega⟩
  obtain ⟨y, k, hy, hk, ht'⟩ : ∃ y k, y ≤ 3 ∧ (k ≤ 364 ∨ y = 3 ∧ k = 365) ∧ t = 365 * y + k :=
    ⟨min (t / 365) 3, t - 365 * min (t / 365) 3, by omega⟩
  exact ⟨c, q, y, k, by omega⟩

/-- The corrections for leap days leave the year of the era. -/
theorem yearOfEra_eq {n c q y k : Nat} (hc : c ≤ 3) (hq : q ≤ 24) (hy : y ≤ 3)
    (hk : k ≤ 364 ∨ (k = 365 ∧ y = 3 ∧ (q = 24 → c = 3)))
    (hn : n = 36524 * c + 1461 * q + 365 * y + k) :
    (n - n / 1460 + n / 36524 - n / 146096) / 365 = 100 * c + 4 * q + y := by
  have hfour : n / 1460 = 25 * c + q ∨ n / 1460 = 25 * c + q + 1 := by omega
  have hcentury : n / 36524 = c + n / 146096 := by
    have hlast : 1461 * q + 365 * y + k ≤ 36523 ∨ n = 146096 := by omega
    rcases hlast with hlast | hlast
    · have hzero : n / 146096 = 0 := by omega
      omega
    · omega
  omega

/-- The year of an era that a day of it lies in; both start in March. -/
def yearOfEra (dayOfEra : Nat) : Nat :=
  (dayOfEra - dayOfEra / 1460 + dayOfEra / 36524 - dayOfEra / 146096) / 365

/-- The day of that year. -/
def dayOfYear (dayOfEra : Nat) : Nat :=
  dayOfEra - (365 * yearOfEra dayOfEra + yearOfEra dayOfEra / 4 - yearOfEra dayOfEra / 100)

/-- A day lies in the year from March on that it is said to lie in. -/
theorem march_counts (n : Nat) :
    let year := yearOfEra (n % 146097) + n / 146097 * 400
    let k := dayOfYear (n % 146097)
    (k ≤ 364 ∨ (k = 365 ∧ isLeapYear (year + 1) = true)) ∧ dayNumber year 3 1 + k = n + 60 := by
  obtain ⟨c, q, y, k, hc, hq, hy, hk, hday⟩ :=
    exists_day_of_era (Nat.mod_lt n (by decide : 146097 > 0))
  have hn : 146097 * (n / 146097) + n % 146097 = n := Nat.div_add_mod n 146097
  generalize n / 146097 = era at hn
  generalize n % 146097 = dayOfEra at hn hday
  have hyear : yearOfEra dayOfEra = 100 * c + 4 * q + y := yearOfEra_eq hc hq hy hk hday
  have hk' : dayOfYear dayOfEra = k := by
    have hfour : (100 * c + 4 * q + y) / 4 = 25 * c + q := by omega
    have hhundred : (100 * c + 4 * q + y) / 100 = c := by omega
    rw [dayOfYear, hyear, hfour, hhundred]
    omega
  rw [hyear, hk']
  constructor
  · rcases hk with hk | ⟨hk, hy, hq⟩
    · exact .inl hk
    · refine .inr ⟨hk, (isLeapYear_iff _).mpr ?_⟩
      omega
  · have hfour : (100 * c + 4 * q + y + era * 400) / 4 = 25 * c + q + era * 100 := by omega
    have hhundred : (100 * c + 4 * q + y + era * 400) / 100 = c + era * 4 := by omega
    have hfourHundred : (100 * c + 4 * q + y + era * 400) / 400 = era := by omega
    rw [dayNumber_march, hfour, hhundred, hfourHundred]
    omega

/-! ## Dates of days -/

theorem dayNumber_epoch : dayNumber 1970 1 1 = 719528 := by
  rw [dayNumber, daysBeforeYear_eq]
  rfl

theorem Date.ofDays_eq {n : Int} {days : Nat} (h : n + daysBeforeEpoch = days) :
    Date.ofDays n =
      civilOfMarch (yearOfEra (days % 146097) + days / 146097 * 400)
        (dayOfYear (days % 146097)) := by
  have hday : ((days : Int) % daysPerEra).toNat = days % 146097 := by
    rw [daysPerEra]
    omega
  have hera : (days : Int) / daysPerEra = (days / 146097 : Nat) := by
    rw [daysPerEra]
    omega
  rw [Date.ofDays, h, hday, hera]
  rw [civilOfMarch, yearOfEra, dayOfYear]
  congr 1
  push_cast
  rfl

/-- From March of the year 0 on, the date of a day is the civil date that counting leads to. -/
theorem Date.ofDays_counts {n : Int} (hn : 0 ≤ n + daysBeforeEpoch) :
    ∃ year month day : Nat, Date.ofDays n = ⟨year, month, day⟩ ∧ IsCivil year month day ∧
      (dayNumber year month day : Int) = n + dayNumber 1970 1 1 := by
  obtain ⟨days, hdays⟩ := Int.eq_ofNat_of_zero_le hn
  obtain ⟨hk, hmarch⟩ := march_counts days
  obtain ⟨year, month, day, hdate, hcivil, hnumber⟩ := civilOfMarch_counts hk
  refine ⟨year, month, day, (Date.ofDays_eq hdays).trans hdate, hcivil, ?_⟩
  rw [hnumber, hmarch, dayNumber_epoch]
  have hepoch : daysBeforeEpoch = 719468 := rfl
  omega

/-! ## The order of days -/

theorem daysBeforeYear_mono {year year' : Nat} (h : year ≤ year') :
    daysBeforeYear year ≤ daysBeforeYear year' := by
  induction h with
  | refl => exact Nat.le_refl _
  | step _ ih => exact Nat.le_trans ih (Nat.le_add_right _ _)

theorem daysBeforeMonth_mono (year : Nat) {month month' : Nat} (h : month ≤ month') :
    daysBeforeMonth year month ≤ daysBeforeMonth year month' := by
  induction h with
  | refl => exact Nat.le_refl _
  | step _ ih => exact Nat.le_trans ih (Nat.le_add_right _ _)

/-- The twelve months make up the year. -/
theorem daysBeforeMonth_thirteen (year : Nat) : daysBeforeMonth year 13 = yearLength year := by
  simp only [daysBeforeMonth, monthLength, yearLength]
  split <;> rfl

namespace IsCivil

variable {year month day year' month' day' : Nat}

/-- A date lies before the first of the month after it. -/
theorem dayNumber_lt_month (h : IsCivil year month day) (hmonth : month < month') :
    dayNumber year month day < daysBeforeYear year + daysBeforeMonth year month' := by
  have hnext : daysBeforeMonth year month + monthLength year month ≤ daysBeforeMonth year month' :=
    daysBeforeMonth_mono year (Nat.succ_le_of_lt hmonth)
  have hday := h.one_le_day
  have hlength := h.day_le
  rw [dayNumber]
  omega

/-- A date lies before the first of January after it. -/
theorem dayNumber_lt_year (h : IsCivil year month day) (hyear : year < year') :
    dayNumber year month day < daysBeforeYear year' := by
  have hlt := h.dayNumber_lt_month (Nat.lt_succ_of_le h.month_le)
  rw [daysBeforeMonth_thirteen] at hlt
  exact Nat.lt_of_lt_of_le hlt (daysBeforeYear_mono (Nat.succ_le_of_lt hyear))

theorem daysBeforeYear_le : daysBeforeYear year ≤ dayNumber year month day := by
  rw [dayNumber]
  omega

/-- The dates before the first of January are those of earlier years. -/
theorem dayNumber_lt_daysBeforeYear_iff (h : IsCivil year month day) :
    dayNumber year month day < daysBeforeYear year' ↔ year < year' := by
  refine ⟨fun hlt => ?_, h.dayNumber_lt_year⟩
  by_contra hge
  have hmono := daysBeforeYear_mono (Nat.le_of_not_lt hge)
  exact Nat.lt_irrefl _ (Nat.lt_of_lt_of_le hlt (Nat.le_trans hmono daysBeforeYear_le))

end IsCivil

/-- An earlier date has the smaller day number. -/
theorem dayNumber_lt {year month day year' month' day' : Nat} (h : IsCivil year month day)
    (h' : IsCivil year' month' day')
    (hlt : year < year' ∨ year = year' ∧ (month < month' ∨ month = month' ∧ day < day')) :
    dayNumber year month day < dayNumber year' month' day' := by
  rcases hlt with hyear | ⟨rfl, hmonth | ⟨rfl, hday⟩⟩
  · exact Nat.lt_of_lt_of_le (h.dayNumber_lt_year hyear) IsCivil.daysBeforeYear_le
  · exact Nat.lt_of_lt_of_le (h.dayNumber_lt_month hmonth) (Nat.le_add_right _ _)
  · have hone := h.one_le_day
    rw [dayNumber, dayNumber]
    omega

/-- Days follow each other as the years, months and days of their dates do. -/
theorem dayNumber_lt_iff {year month day year' month' day' : Nat} (h : IsCivil year month day)
    (h' : IsCivil year' month' day') :
    dayNumber year month day < dayNumber year' month' day' ↔
      year < year' ∨ year = year' ∧ (month < month' ∨ month = month' ∧ day < day') := by
  refine ⟨fun hlt => ?_, dayNumber_lt h h'⟩
  by_contra hge
  have hback : (year' < year ∨ year' = year ∧ (month' < month ∨ month' = month ∧ day' < day)) ∨
      year = year' ∧ month = month' ∧ day = day' := by omega
  rcases hback with hback | ⟨rfl, rfl, rfl⟩
  · exact Nat.lt_asymm hlt (dayNumber_lt h' h hback)
  · exact Nat.lt_irrefl _ hlt

end TextTemplate.Time
