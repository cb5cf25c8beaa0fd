import ContributionRegistry.Calendar.Timestamp

/-!
# Days and times by their numbers

A day is found again by the number of days since 1970 (`Date.ofDayNumber?_dayNumber`), and a time by
its milliseconds (`Timestamp.ofUnixMillis?_unixMillis`), if it has nothing below a millisecond and
is no leap second (`Timestamp.Countable`). These are the times that a table gives back as they were.

Years are counted from March: then the leap day, if there is one, is the last day of a year, and the
month of a day depends on nothing but how far into the year it is. The year is the harder part. Four
hundred years have 146097 days; the quotients by 1460, 36524 and 146096 take the leap days out of a
number of days, and are right even for the last day of a leap year because none of them counts that
day before it is over (`yearOfEra_eq`).
-/

namespace ContributionRegistry.Calendar

namespace Date

/-! ### Years from March -/

/-- A quotient is known by any split with a proper rest. -/
theorem ediv_eq_of_split {a b q r : Int} (h : a = b * q + r) (hr : 0 ≤ r) (hb : r < b) :
    a / b = q :=
  ((Int.ediv_emod_unique (Int.lt_of_le_of_lt hr hb)).2 ⟨by omega, hr, hb⟩).1

/-- The year of a day among four hundred. The last day of a leap year is the 366th. -/
theorem yearOfEra_eq {k doy : Int} (hk : 0 ≤ k) (hk' : k < 400) (hdoy : 0 ≤ doy)
    (hdoy' : doy ≤ 365)
    (hleap : doy = 365 → (k + 1) % 4 = 0 ∧ ((k + 1) % 100 ≠ 0 ∨ (k + 1) % 400 = 0)) :
    let days := 365 * k + k / 4 - k / 100 + doy
    (days - days / 1460 + days / 36524 - days / 146096) / 365 = k := by
  intro days
  obtain ⟨c, q, r, rfl, hc, hc', hq, hq', hr, hr'⟩ : ∃ c q r, k = 100 * c + 4 * q + r ∧
      0 ≤ c ∧ c < 4 ∧ 0 ≤ q ∧ q < 25 ∧ 0 ≤ r ∧ r < 4 := ⟨k / 100, k % 100 / 4, k % 4, by omega⟩
  have hdays : days = 36524 * c + (1461 * q + 365 * r + doy) := by
    show 365 * (100 * c + 4 * q + r) + _ - _ + doy = _
    omega
  clear_value days
  have hcenturies : days / 36524 - days / 146096 = c := by
    by_cases hlast : 1461 * q + 365 * r + doy < 36524
    · have hera : days / 146096 = 0 := ediv_eq_of_split (r := days) (by omega) (by omega) (by omega)
      rw [ediv_eq_of_split hdays (by omega) hlast, hera, Int.sub_zero]
    -- only the last day of all four hundred years is beyond its century
    · obtain ⟨rfl, rfl, rfl⟩ : q = 24 ∧ r = 3 ∧ doy = 365 := by omega
      obtain rfl : c = 3 := by omega
      subst hdays
      decide
  have hthird : doy = 365 → r = 3 := by omega
  by_cases hearly : 24 * c + q + 365 * r + doy < 1460
  · have hquads : days / 1460 = 25 * c + q :=
      ediv_eq_of_split (r := 24 * c + q + 365 * r + doy) (by omega) (by omega) hearly
    exact ediv_eq_of_split (r := doy) (by omega) hdoy (by omega)
  · have hquads : days / 1460 = 25 * c + q + 1 :=
      ediv_eq_of_split (r := 24 * c + q + 365 * r + doy - 1460) (by omega) (by omega) (by omega)
    exact ediv_eq_of_split (r := doy - 1) (by omega) (by omega) (by omega)

/-- The days before a year, counted by fours of centuries. -/
theorem daysToMarch_eq {y e k : Int} (hy : y = 400 * e + k) (hk : 0 ≤ k) (hk' : k < 400) :
    daysToMarch y = 146097 * e + (365 * k + k / 4 - k / 100) := by
  subst hy
  unfold daysToMarch
  omega

/-! ### Months from March -/

/-- The month of a day of the year. -/
theorem month_eq {m doy : Nat} (hlow : daysFromMarch m ≤ doy)
    (hhigh : doy < daysFromMarch (m + 1)) : (5 * doy + 2) / 153 = m := by
  unfold daysFromMarch at hlow hhigh
  omega

/-- The days of a month lie before the next one, and only a leap year has a 366th. -/
theorem fits_of_lt_daysInMonth {year : Int} {m day : Nat} (hm : m < 12)
    (hday : day < daysInMonth year (if m < 10 then m + 3 else m - 9)) :
    daysFromMarch m + day < daysFromMarch (m + 1) ∧ daysFromMarch m + day ≤ 365 ∧
      (daysFromMarch m + day = 365 → m = 11 ∧ isLeapYear year = true) := by
  have hcases : m = 0 ∨ m = 1 ∨ m = 2 ∨ m = 3 ∨ m = 4 ∨ m = 5 ∨ m = 6 ∨ m = 7 ∨ m = 8 ∨ m = 9 ∨
      m = 10 ∨ m = 11 := by omega
  unfold daysInMonth at hday
  rcases hcases with rfl | rfl | rfl | rfl | rfl | rfl | rfl | rfl | rfl | rfl | rfl | rfl
  case inr.inr.inr.inr.inr.inr.inr.inr.inr.inr.inr =>
    simp only [daysFromMarch]
    split at hday <;> grind
  all_goals
    simp [daysFromMarch] at hday ⊢
    omega

/-! ### Dates -/

/-- The date of a day counted in years from March. -/
theorem ofDayNumber?_eq (y : Int) {m day : Nat} (hm : m < 12)
    (hday : daysFromMarch m + day < daysFromMarch (m + 1)) (hdoy : daysFromMarch m + day ≤ 365)
    (hleap : daysFromMarch m + day = 365 →
      (y + 1) % 4 = 0 ∧ ((y + 1) % 100 ≠ 0 ∨ (y + 1) % 400 = 0)) :
    ofDayNumber? (daysToMarch y + daysFromMarch m + day - 719468) =
      if m < 10 then ofYearMonthDay? y (m + 3) (day + 1)
      else ofYearMonthDay? (y + 1) (m - 9) (day + 1) := by
  obtain ⟨e, k, hy, hk, hk'⟩ : ∃ e k, y = 400 * e + k ∧ 0 ≤ k ∧ k < 400 :=
    ⟨y / 400, y % 400, by omega⟩
  -- a day is found by its era, its year in the era, and its day in the year, all counted from March
  generalize hdoy' : daysFromMarch m + day = doy at hday hdoy hleap
  have hdays : daysToMarch y + daysFromMarch m + day - 719468 + 719468 =
      146097 * e + (365 * k + k / 4 - k / 100 + doy) := by
    rw [daysToMarch_eq hy hk hk']
    omega
  have hera : 0 ≤ 365 * k + k / 4 - k / 100 + doy ∧ 365 * k + k / 4 - k / 100 + doy < 146097 := by
    omega
  have hsplit : (146097 * e + (365 * k + k / 4 - k / 100 + doy)) / 146097 = e ∧
      (146097 * e + (365 * k + k / 4 - k / 100 + doy)) % 146097 =
        365 * k + k / 4 - k / 100 + doy :=
    (Int.ediv_emod_unique (by decide)).2 ⟨Int.add_comm .., hera.1, hera.2⟩
  have hleap' : (doy : Int) = 365 → (k + 1) % 4 = 0 ∧ ((k + 1) % 100 ≠ 0 ∨ (k + 1) % 400 = 0) := by
    intro h
    have hyear := hleap (by omega)
    omega
  have hyear := yearOfEra_eq hk hk' (by omega) (by omega) hleap'
  have hback : (365 * k + k / 4 - k / 100 + doy - (365 * k + k / 4 - k / 100)).toNat = doy := by
    omega
  have hmonth : (5 * doy + 2) / 153 = m := month_eq (by omega) (by omega)
  simp only [ofDayNumber?, hdays, hsplit.1, hsplit.2]
  simp only [hyear, hback, hmonth]
  have hfirst : doy - daysFromMarch m + 1 = day + 1 := by omega
  rw [hfirst]
  by_cases hspring : m < 10
  · rw [if_pos hspring, if_pos hspring, if_neg (by omega)]
    congr 1
    omega
  · rw [if_neg hspring, if_neg hspring, if_pos (by omega)]
    congr 1
    omega

/-- What a leap year is, as arithmetic has it. -/
theorem leap_of_isLeapYear {year : Int} (h : isLeapYear year = true) :
    year % 4 = 0 ∧ (year % 100 ≠ 0 ∨ year % 400 = 0) := by
  simpa [isLeapYear] using h

/-- **A day is found by its number.** -/
theorem ofDayNumber?_dayNumber (d : Date) : ofDayNumber? d.dayNumber = some d := by
  obtain ⟨-, -, hmonth, hmonth', hday, hday'⟩ := d.isDate
  by_cases hwinter : d.month ≤ 2
  -- January and February end the year from March that is called after the year before
  · have hm : (d.month + 9) % 12 = d.month + 9 := Nat.mod_eq_of_lt (by omega)
    have hlength : d.day - 1 < daysInMonth d.year
        (if d.month + 9 < 10 then d.month + 9 + 3 else d.month + 9 - 9) := by
      rw [if_neg (by omega), Nat.add_sub_cancel]
      omega
    obtain ⟨hfits, hdoy, hlast⟩ := fits_of_lt_daysInMonth (by omega) hlength
    have hnumber : d.dayNumber =
        daysToMarch (d.year - 1) + daysFromMarch (d.month + 9) + (d.day - 1 : Nat) - 719468 := by
      simp only [dayNumber, hm, if_pos hwinter]
      omega
    have hleap : daysFromMarch (d.month + 9) + (d.day - 1) = 365 → _ :=
      fun h ↦ leap_of_isLeapYear (hlast h).2
    rw [hnumber, ofDayNumber?_eq (d.year - 1) (by omega) hfits hdoy (by rwa [Int.sub_add_cancel]),
      if_neg (by omega), Int.sub_add_cancel, Nat.add_sub_cancel, Nat.sub_add_cancel hday]
    exact ofYearMonthDay?_self d
  · have hm : (d.month + 9) % 12 = d.month - 3 := by omega
    have hlength : d.day - 1 < daysInMonth d.year
        (if d.month - 3 < 10 then d.month - 3 + 3 else d.month - 3 - 9) := by
      rw [if_pos (by omega), Nat.sub_add_cancel (by omega)]
      omega
    obtain ⟨hfits, hdoy, hlast⟩ := fits_of_lt_daysInMonth (by omega) hlength
    have hnumber : d.dayNumber =
        daysToMarch d.year + daysFromMarch (d.month - 3) + (d.day - 1 : Nat) - 719468 := by
      simp only [dayNumber, hm, if_neg hwinter]
      omega
    have hshort : daysFromMarch (d.month - 3) + (d.day - 1) ≠ 365 := by
      intro h
      have hwinter' := (hlast h).1
      omega
    rw [hnumber, ofDayNumber?_eq d.year (by omega) hfits hdoy (fun h ↦ absurd h hshort),
      if_pos (by omega), Nat.sub_add_cancel (by omega), Nat.sub_add_cancel hday]
    exact ofYearMonthDay?_self d

end Date

namespace Timestamp

/-- Milliseconds tell the time: there is nothing below them, and it is no leap second. -/
structure Countable (t : Timestamp) : Prop where
  /-- There is nothing below a millisecond. -/
  whole : t.nanos % 1000000 = 0
  /-- It is no leap second. -/
  regular : t.second < 60

/-- The start of a day is found again by its milliseconds. -/
theorem countable_startOf (d : Date) : (startOf d).Countable := ⟨rfl, second_startOf_lt d⟩

/-- **A countable time is found by its milliseconds.** -/
theorem ofUnixMillis?_unixMillis {t : Timestamp} (h : t.Countable) :
    ofUnixMillis? t.unixMillis = some t := by
  obtain ⟨hwhole, hregular⟩ := h
  have hminute := t.minute_lt
  have hnanos := t.nanos_lt
  have hday : t.unixMillis / 86400000 = t.date.dayNumber := by
    unfold unixMillis
    omega
  have hrest : (t.unixMillis % 86400000).toNat =
      (t.minute * 60 + t.second) * 1000 + t.nanos / 1000000 := by
    unfold unixMillis
    omega
  have hm : ((t.minute * 60 + t.second) * 1000 + t.nanos / 1000000) / 60000 = t.minute := by omega
  have hs : ((t.minute * 60 + t.second) * 1000 + t.nanos / 1000000) / 1000 % 60 = t.second := by
    omega
  have hn : ((t.minute * 60 + t.second) * 1000 + t.nanos / 1000000) % 1000 * 1000000 = t.nanos := by
    omega
  simp only [ofUnixMillis?, hday, Date.ofDayNumber?_dayNumber, Option.bind_some, hrest, hm, hs, hn]
  exact dif_pos ⟨t.minute_lt, t.second_le, t.nanos_lt⟩

/-- A time without what it has below a millisecond. -/
def withoutRest (t : Timestamp) : Timestamp :=
  { t with
    nanos := t.nanos / 1000000 * 1000000
    nanos_lt := Nat.lt_of_le_of_lt (Nat.div_mul_le_self ..) t.nanos_lt }

/-- A time without what is below a millisecond is found again, unless it is in a leap second. -/
theorem countable_withoutRest {t : Timestamp} (h : t.second < 60) : t.withoutRest.Countable :=
  ⟨Nat.mul_mod_left .., h⟩

/-- What a clock shows to the millisecond is what it shows without the rest. -/
theorem wholeMillis_eq {t : Timestamp} (h : t.second < 60) : t.wholeMillis = t.withoutRest := by
  have hmillis : t.unixMillis = t.withoutRest.unixMillis := by
    simp only [unixMillis, withoutRest, Nat.mul_div_cancel _ (show 0 < 1000000 by decide)]
  rw [wholeMillis, hmillis, ofUnixMillis?_unixMillis (countable_withoutRest h), Option.getD_some]

/-- What a clock shows is found again, unless it is in a leap second. -/
theorem countable_wholeMillis {t : Timestamp} (h : t.second < 60) : t.wholeMillis.Countable := by
  rw [wholeMillis_eq h]
  exact countable_withoutRest h

end Timestamp

end ContributionRegistry.Calendar
