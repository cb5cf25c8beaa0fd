import ContributionRegistry.Calendar.Date

/-!
# One day after another

The day after a date has the next number (`Date.dayNumber_of_next?`), and the day before it the one
before (`Date.dayNumber_of_previous?`); the first of January 1970 is number 0. So numbers count
days, whatever months and years lie between, and leap days with them. Only the calendar's ends have
no neighbour (`Date.exists_next?`, `Date.exists_previous?`).

A day is followed by one of the same month, or by the first of the next month, or by the first of
January. Each of the three is a fact about numbers of dates given by year, month and day
(`Date.number_succ`, `Date.number_month`, `Date.number_year`), and both directions are read off
them.

Together with the formula in which numbers are computed this says that the formula counts days,
which the formula itself does not show.
-/

namespace ContributionRegistry.Calendar.Date

/-- The number of a date given by year, month and day. -/
def number (year : Int) (month day : Nat) : Int :=
  daysToMarch (if month ≤ 2 then year - 1 else year) + daysFromMarch ((month + 9) % 12) +
    (day - 1) - 719468

/-- The number of a date is that of its year, month and day. -/
theorem dayNumber_eq (d : Date) : d.dayNumber = number d.year d.month d.day := rfl

/-- Days are counted from the first of January 1970. -/
theorem dayNumber_epoch : epoch.dayNumber = 0 := by decide

/-! ### The three ways to the next day -/

variable {year : Int} {month day : Nat}

/-- Within a month, the next day has the next number. -/
theorem number_succ : number year month (day + 1) = number year month day + 1 := by
  unfold number
  omega

/-- A year from March is a day longer if February has 29 days. -/
theorem daysToMarch_pred (year : Int) :
    daysToMarch year = daysToMarch (year - 1) + (337 + daysInMonth year 2 : Nat) := by
  have hleap : isLeapYear year = true ↔ year % 4 = 0 ∧ (year % 100 ≠ 0 ∨ year % 400 = 0) := by
    simp [isLeapYear]
  rw [daysInMonth, if_pos rfl]
  unfold daysToMarch
  by_cases h : isLeapYear year = true
  · rw [if_pos h]
    have hyear := hleap.1 h
    omega
  · rw [if_neg h]
    have hyear := mt hleap.2 h
    omega

/-- The first of a month comes after the last of the month before. -/
theorem number_month (hmonth : 1 ≤ month) (hmonth' : month < 12) :
    number year (month + 1) 1 = number year month (daysInMonth year month) + 1 := by
  have hcases : month = 1 ∨ month = 2 ∨ month = 3 ∨ month = 4 ∨ month = 5 ∨ month = 6 ∨ month = 7 ∨
      month = 8 ∨ month = 9 ∨ month = 10 ∨ month = 11 := by omega
  unfold number
  rcases hcases with rfl | rfl | rfl | rfl | rfl | rfl | rfl | rfl | rfl | rfl | rfl
  -- between February and March the year from March changes
  case inr.inl =>
    have hyear := daysToMarch_pred year
    simp [daysFromMarch]
    omega
  all_goals
    simp [daysFromMarch, daysInMonth]
    omega

/-- The first of January comes after the last of December. -/
theorem number_year : number (year + 1) 1 1 = number year 12 31 + 1 := by
  unfold number
  simp [daysFromMarch]
  omega

/-! ### The day after and the day before -/

variable {d e : Date}

/-- A date has the year, month and day that it was made of. -/
theorem eq_of_ofYearMonthDay? (h : ofYearMonthDay? year month day = some e) :
    e.year = year ∧ e.month = month ∧ e.day = day := by
  unfold ofYearMonthDay? at h
  split at h
  · cases h
    exact ⟨rfl, rfl, rfl⟩
  · cases h

/-- A date has the number of what it was made of. -/
theorem dayNumber_of_ofYearMonthDay? (h : ofYearMonthDay? year month day = some e) :
    e.dayNumber = number year month day := by
  obtain ⟨rfl, rfl, rfl⟩ := eq_of_ofYearMonthDay? h
  exact e.dayNumber_eq

/-- **The day after has the next number.** -/
theorem dayNumber_of_next? (h : d.next? = some e) : e.dayNumber = d.dayNumber + 1 := by
  obtain ⟨-, -, hmonth, hmonth', hday, hday'⟩ := d.isDate
  rw [dayNumber_eq d]
  unfold next? at h
  split at h
  · rw [dayNumber_of_ofYearMonthDay? h, number_succ]
  have hlast : d.day = daysInMonth d.year d.month := by omega
  split at h
  · rw [dayNumber_of_ofYearMonthDay? h, hlast, number_month hmonth ‹_›]
  · have hdecember : d.month = 12 := by omega
    have hlength : daysInMonth d.year 12 = 31 := rfl
    rw [dayNumber_of_ofYearMonthDay? h, hlast, hdecember, hlength, number_year]

/-- **The day before has the number before.** -/
theorem dayNumber_of_previous? (h : d.previous? = some e) : e.dayNumber = d.dayNumber - 1 := by
  obtain ⟨-, -, hmonth, hmonth', hday, hday'⟩ := d.isDate
  suffices hafter : e.dayNumber + 1 = d.dayNumber by omega
  rw [dayNumber_eq d]
  unfold previous? at h
  split at h
  · rw [dayNumber_of_ofYearMonthDay? h, ← number_succ, Nat.sub_add_cancel hday]
  have hfirst : d.day = 1 := by omega
  split at h
  · rw [dayNumber_of_ofYearMonthDay? h, ← number_month (by omega) (by omega),
      Nat.sub_add_cancel hmonth, hfirst]
  · have hjanuary : d.month = 1 := by omega
    rw [dayNumber_of_ofYearMonthDay? h, ← number_year, Int.sub_add_cancel, hjanuary, hfirst]

theorem one_le_daysInMonth (year : Int) (month : Nat) : 1 ≤ daysInMonth year month := by
  unfold daysInMonth
  split
  · split <;> decide
  · split <;> decide

/-- There is a day after, unless a year ends that is the last one. -/
theorem exists_next? (h : d.year < largestYear) : ∃ e, d.next? = some e := by
  obtain ⟨hyear, hyear', hmonth, hmonth', hday, hday'⟩ := d.isDate
  unfold next?
  split
  · exact ⟨_, dif_pos ⟨hyear, hyear', hmonth, hmonth', by omega, ‹_›⟩⟩
  split
  · exact ⟨_, dif_pos ⟨hyear, hyear', by omega, ‹_›, Nat.le_refl 1, one_le_daysInMonth ..⟩⟩
  · exact ⟨_, dif_pos ⟨by omega, h, Nat.le_refl 1, by decide, Nat.le_refl 1,
      one_le_daysInMonth ..⟩⟩

/-- There is a day before, unless a year begins that is the first one. -/
theorem exists_previous? (h : leastYear < d.year) : ∃ e, d.previous? = some e := by
  obtain ⟨hyear, hyear', hmonth, hmonth', hday, hday'⟩ := d.isDate
  unfold previous?
  split
  · exact ⟨_, dif_pos ⟨hyear, hyear', hmonth, hmonth', by omega, by omega⟩⟩
  split
  · exact ⟨_, dif_pos ⟨hyear, hyear', by omega, by omega, one_le_daysInMonth .., Nat.le_refl _⟩⟩
  · exact ⟨_, dif_pos ⟨by omega, by omega, by decide, by decide, by decide, Nat.le_refl 31⟩⟩

end ContributionRegistry.Calendar.Date
