import ContributionRegistry.Text.Blank
import ContributionRegistry.Text.Digits

/-!
# Dates

Days of the proleptic Gregorian calendar in the years -262143 to 262142. A date is written as year,
month and day joined by hyphens. A year from 0 to 9999 has four digits and no sign, any other a sign
and at least four digits.

That year, month and day name a day is part of a date (`IsDate`), and there is no date outside the
range of years, so the day after a date and the day before it may be missing.

**Counting days.** Dates are in step with the integers: `Date.dayNumber` counts days from the first
of January 1970, and `Date.ofDayNumber?` goes back. Both count years from March, so that the leap
day is the last day of a year and months have lengths that follow one formula. That the two undo
each other is proved with the other facts about day numbers.
-/

namespace ContributionRegistry.Calendar

/-- Every fourth year, but of the centuries only every fourth. -/
def isLeapYear (year : Int) : Bool :=
  year % 4 == 0 && (year % 100 != 0 || year % 400 == 0)

/-- The number of days of a month. -/
def daysInMonth (year : Int) (month : Nat) : Nat :=
  if month = 2 then (if isLeapYear year then 29 else 28)
  else if month = 4 ∨ month = 6 ∨ month = 9 ∨ month = 11 then 30
  else 31

/-- The first year with dates. -/
def leastYear : Int := -262143

/-- The last year with dates. -/
def largestYear : Int := 262142

/-- Whether year, month and day name a date. -/
def IsDate (year : Int) (month day : Nat) : Prop :=
  leastYear ≤ year ∧ year ≤ largestYear ∧ 1 ≤ month ∧ month ≤ 12 ∧ 1 ≤ day ∧
    day ≤ daysInMonth year month

instance (year : Int) (month day : Nat) : Decidable (IsDate year month day) :=
  inferInstanceAs (Decidable (_ ∧ _))

/-- A day of the calendar. -/
structure Date where
  /-- The year; the year 0 is the one before the year 1. -/
  year : Int
  /-- The month, counted from 1. -/
  month : Nat
  /-- The day of the month, counted from 1. -/
  day : Nat
  /-- There is such a day. -/
  isDate : IsDate year month day
  deriving DecidableEq, Repr

namespace Date

/-- The date of a year, month and day, if they name one. -/
def ofYearMonthDay? (year : Int) (month day : Nat) : Option Date :=
  if h : IsDate year month day then some ⟨year, month, day, h⟩ else none

/-- The first of January 1970. -/
def epoch : Date := ⟨1970, 1, 1, by decide⟩

/-- The day after, unless there is none. -/
def next? (d : Date) : Option Date :=
  if d.day < daysInMonth d.year d.month then ofYearMonthDay? d.year d.month (d.day + 1)
  else if d.month < 12 then ofYearMonthDay? d.year (d.month + 1) 1
  else ofYearMonthDay? (d.year + 1) 1 1

/-- The day before, unless there is none. -/
def previous? (d : Date) : Option Date :=
  if 1 < d.day then ofYearMonthDay? d.year d.month (d.day - 1)
  else if 1 < d.month then ofYearMonthDay? d.year (d.month - 1) (daysInMonth d.year (d.month - 1))
  else ofYearMonthDay? (d.year - 1) 12 31

/-- The order of time: year, then month, then day. -/
def precedes (d e : Date) : Bool :=
  d.year < e.year || (d.year == e.year && (d.month < e.month ||
    (d.month == e.month && d.day < e.day)))

/-! ### Writing -/

/-- A year as dates write it. -/
def spellYear (year : Int) : List Char :=
  if 0 ≤ year ∧ year ≤ 9999 then Text.padded 4 year.toNat
  else (if year < 0 then '-' else '+') :: Text.padded 4 year.natAbs

/-- A date as characters. -/
def spell (d : Date) : List Char :=
  spellYear d.year ++ '-' :: Text.padded 2 d.month ++ '-' :: Text.padded 2 d.day

/-- The written form of a date. -/
def text (d : Date) : String :=
  String.ofList d.spell

/-! ### Counting days -/

/-- Days from the first of March of the year 0 to the first of March of `year`. -/
def daysToMarch (year : Int) : Int :=
  365 * year + year / 4 - year / 100 + year / 400

/-- Days from the first of March to the first of the month that is `m` months later. -/
def daysFromMarch (m : Nat) : Nat :=
  (153 * m + 2) / 5

/-- Days since the first of January 1970, negative before it. Years are counted from March, so that
the leap day ends a year. -/
def dayNumber (d : Date) : Int :=
  let year := if d.month ≤ 2 then d.year - 1 else d.year
  let month := (d.month + 9) % 12
  daysToMarch year + daysFromMarch month + (d.day - 1) - 719468

/-- The date so many days after the first of January 1970. -/
def ofDayNumber? (n : Int) : Option Date :=
  let days := n + 719468
  let era := days / 146097
  let dayOfEra := days % 146097
  let yearOfEra := (dayOfEra - dayOfEra / 1460 + dayOfEra / 36524 - dayOfEra / 146096) / 365
  let dayOfYear := (dayOfEra - (365 * yearOfEra + yearOfEra / 4 - yearOfEra / 100)).toNat
  let m := (5 * dayOfYear + 2) / 153
  let day := dayOfYear - daysFromMarch m + 1
  let month := if m < 10 then m + 3 else m - 9
  let year := yearOfEra + era * 400 + (if month ≤ 2 then 1 else 0)
  ofYearMonthDay? year month day

/-! ### Small facts -/

/-- Year, month and day of a date name a date. -/
theorem ofYearMonthDay?_self (d : Date) : ofYearMonthDay? d.year d.month d.day = some d :=
  dif_pos d.isDate

end Date

end ContributionRegistry.Calendar
