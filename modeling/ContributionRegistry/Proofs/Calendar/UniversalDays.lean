import ContributionRegistry.Proofs.Calendar.DayNumbers
import ContributionRegistry.Proofs.Calendar.Rereading
import ContributionRegistry.Proofs.Calendar.Succession
import ContributionRegistry.Proofs.Records.EmployeeTexts
import ContributionRegistry.Proofs.Text.Fractions

/-!
# Days in universal time

A date of birth that is given as a timestamp is the day in universal time of the instant that the
timestamp denotes (`BirthDate.parse?_universal_day`), whatever its offset: an offset that leads over
midnight may lead into another month or year, and before the year 0 or after the year 9999, for
which a date has a text but a timestamp does not.

The instant is counted, and not taken from a reader (`StrictTime.instant`): whole minutes since 1970
from the number of the day, and then seconds. Seconds are apart from minutes because the sixtieth
second of a minute is none of the next one. A timestamp is read as one of that minute
(`StrictTime.exists_readStrict?`), since shifting by an offset crosses at most one midnight, and
neighbouring days have neighbouring numbers.

`StrictTime` is the grammar of strict timestamps: the parts that one has, with everything that they
must satisfy. Every such timestamp has a text, and the reader takes that text apart again
(`readStrict?_spell`). A text that is a plain date is none of them.
-/

namespace ContributionRegistry.Calendar

/-! ### Timestamps by the letter of RFC 3339 -/

/-- The zone of a strict timestamp: universal time, or hours and minutes ahead of it or behind. -/
inductive Zone where
  | capital
  | small
  | ahead (hours : Fin 24) (minutes : Fin 60)
  | behind (hours : Fin 24) (minutes : Fin 60)

namespace Zone

/-- A zone as characters. -/
def spell : Zone → List Char
  | capital => ['Z']
  | small => ['z']
  | ahead hours minutes => '+' :: Text.padded 2 hours ++ ':' :: Text.padded 2 minutes
  | behind hours minutes => '-' :: Text.padded 2 hours ++ ':' :: Text.padded 2 minutes

/-- How many minutes a clock in the zone is ahead of universal time. -/
def offset : Zone → Int
  | capital => 0
  | small => 0
  | ahead hours minutes => (60 * hours + minutes : Nat)
  | behind hours minutes => -(60 * hours + minutes : Nat)

end Zone

/-- What a strict timestamp says. The fraction of a second has any number of digits. -/
structure StrictTime where
  /-- The date, on a clock at the place. -/
  date : Date
  /-- The mark between date and time. -/
  separator : Char
  /-- The hour. -/
  hour : Fin 24
  /-- The minute. -/
  minute : Fin 60
  /-- The second, 60 in a leap second. -/
  second : Fin 61
  /-- The digits of the fraction, none if there is no point. -/
  fraction : List Char
  /-- How far the clock is from universal time. -/
  zone : Zone
  /-- The year needs no sign. -/
  year_nonneg : 0 ≤ date.year
  /-- The year has four digits. -/
  year_le : date.year ≤ 9999
  /-- The mark is one of those that may stand there. -/
  isSeparator : Timestamp.isSeparator separator = true
  /-- The fraction is made of digits. -/
  allDigits : Text.allDigits fraction = true

namespace StrictTime

/-- The digits of a fraction behind their point, if there are any. -/
def pointed (fraction : List Char) : List Char :=
  if fraction = [] then [] else '.' :: fraction

/-- A strict timestamp as characters. -/
def spell (s : StrictTime) : List Char :=
  s.date.spell ++ s.separator :: Text.padded 2 s.hour ++ ':' :: Text.padded 2 s.minute ++
    ':' :: Text.padded 2 s.second ++ pointed s.fraction ++ s.zone.spell

/-- The written form of a strict timestamp. -/
def text (s : StrictTime) : String := String.ofList s.spell

/-- The minutes in universal time from the start of 1970. -/
def universalMinute (s : StrictTime) : Int :=
  1440 * s.date.dayNumber + 60 * (s.hour : Nat) + (s.minute : Nat) - s.zone.offset

/-- The instant that a strict timestamp denotes: the minute in universal time, and the seconds since
it began. -/
def instant (s : StrictTime) : Int × ℚ :=
  (s.universalMinute, (s.second : Nat) + Text.denoted [] s.fraction)

end StrictTime

/-! ### Reading at full width -/

/-- A padded number that fits is read at its width. -/
theorem readFixed_padded {count n : Nat} (hcount : 0 < count) (hn : n < Nat.pow 10 count)
    (rest : List Char) : readFixed count (Text.padded count n ++ rest) = some (n, rest) := by
  have hlength := Text.length_padded_of_lt hcount hn
  have htake : takeDigits count (Text.padded count n ++ rest) = (Text.padded count n, rest) :=
    takeDigits_append (Text.allDigits_padded ..) (Nat.le_of_eq hlength)
      fun h ↦ absurd h (Nat.not_lt_of_le (Nat.le_of_eq hlength.symm))
  rw [readFixed, htake]
  simp only [hlength, hcount, and_self, if_true, Text.ofDigits_padded]

/-- A number of two digits is read whatever follows it. -/
theorem readFixed_pair {n : Nat} (hn : n < 100) (rest : List Char) :
    readFixed 2 (Text.padded 2 n ++ rest) = some (n, rest) := readFixed_padded (by decide) hn rest

/-- Hours and minutes are read behind their sign. -/
theorem readOffset_padded {text : List Char} {sign : Int} {hours : Fin 24} {minutes : Fin 60}
    (hsign : readSign text =
      some (sign, Text.padded 2 hours ++ ':' :: Text.padded 2 minutes)) :
    readOffset (readChar ':') text = some (sign * (60 * hours + minutes : Nat), []) := by
  have hhours : (hours : Nat) < 100 := by omega
  have hminutes : (minutes : Nat) < 100 := by omega
  rw [← List.append_nil (Text.padded 2 minutes)] at hsign
  simp only [readOffset, hsign, Option.bind_eq_bind, Option.bind_some, readFixed_pair hhours,
    readChar_self, readFixed_pair hminutes]
  exact if_pos ⟨hours.isLt, minutes.isLt⟩

/-- The zone is read, and nothing is left. -/
theorem readStrictOffset_spell (zone : Zone) :
    Timestamp.readStrictOffset zone.spell = some (zone.offset, []) := by
  cases zone with
  | capital => rfl
  | small => rfl
  | ahead hours minutes =>
    have hsign : readSign (Zone.ahead hours minutes).spell = some (1, _) := rfl
    have hread : Timestamp.readStrictOffset (Zone.ahead hours minutes).spell = _ :=
      readOffset_padded hsign
    rw [hread, Int.one_mul, Zone.offset]
  | behind hours minutes =>
    have hsign : readSign (Zone.behind hours minutes).spell = some (-1, _) := rfl
    have hread : Timestamp.readStrictOffset (Zone.behind hours minutes).spell = _ :=
      readOffset_padded hsign
    rw [hread, Int.neg_one_mul, Zone.offset]

/-- The nanoseconds of a fraction; digits after the ninth do not count. -/
def nanosOf (fraction : List Char) : Nat :=
  Text.ofDigits (fraction.take 9) * Nat.pow 10 (9 - (fraction.take 9).length)

theorem nanosOf_lt {fraction : List Char} (h : Text.allDigits fraction = true) :
    nanosOf fraction < 1000000000 := by
  have hlength : (fraction.take 9).length ≤ 9 := List.length_take_le ..
  have hlt : Text.ofDigits (fraction.take 9) < 10 ^ (fraction.take 9).length :=
    Text.ofDigits_lt (Text.allDigits_take h 9)
  calc nanosOf fraction
      = Text.ofDigits (fraction.take 9) * 10 ^ (9 - (fraction.take 9).length) := rfl
    _ < 10 ^ (fraction.take 9).length * 10 ^ (9 - (fraction.take 9).length) :=
        Nat.mul_lt_mul_of_pos_right hlt (by positivity)
    _ = 10 ^ 9 := by rw [← pow_add, Nat.add_sub_cancel' hlength]

section

variable {fraction rest : List Char} {c : Char} (hdigits : Text.allDigits fraction = true)
  (hc : c.isDigit = false)

include hdigits hc

/-- All digits of a fraction are read, however many there are. -/
theorem readNanos_append (hne : fraction ≠ []) :
    readNanos (fraction ++ c :: rest) = some (nanosOf fraction, c :: rest) := by
  have htake : takeDigits 9 (fraction ++ c :: rest) =
      (fraction.take 9, fraction.drop 9 ++ c :: rest) := by
    have hsplit : fraction ++ c :: rest = fraction.take 9 ++ (fraction.drop 9 ++ c :: rest) := by
      rw [← List.append_assoc, List.take_append_drop]
    rw [hsplit]
    refine takeDigits_append (Text.allDigits_take hdigits 9) (List.length_take_le ..) fun hlt ↦ ?_
    -- with less than nine digits there are none behind the ninth
    rw [List.length_take] at hlt
    rw [List.drop_eq_nil_of_le (by omega), List.nil_append]
    rintro _ ⟨⟩
    exact hc
  have hdrop : (fraction.drop 9 ++ c :: rest).dropWhile Char.isDigit = c :: rest := by
    rw [List.dropWhile_append_of_pos (List.all_eq_true.1 (Text.allDigits_drop hdigits 9)),
      List.dropWhile_cons_of_neg (by simp [hc])]
  have hne' : fraction.take 9 ≠ [] := by simpa using hne
  obtain ⟨d, digits, hd⟩ := List.exists_cons_of_ne_nil hne'
  rw [readNanos, htake, nanosOf, hd]
  exact congrArg (fun rest ↦ some (_, rest)) hdrop

/-- A fraction is read up to what follows it. -/
theorem readFraction_pointed (hpoint : c ≠ '.') :
    readFraction (StrictTime.pointed fraction ++ c :: rest) =
      some (nanosOf fraction, c :: rest) := by
  unfold StrictTime.pointed
  split
  · next h =>
    subst h
    rw [List.nil_append, readFraction]
    · rfl
    · rintro _ ⟨⟩
      exact hpoint rfl
  · next h => rw [List.cons_append, readFraction, readNanos_append hdigits hc h]

end

/-- A date in a year of four digits is written with them. -/
theorem spell_of_year {d : Date} (h : 0 ≤ d.year) (h' : d.year ≤ 9999) :
    d.spell = Text.padded 4 d.year.toNat ++ '-' :: Text.padded 2 d.month ++
      '-' :: Text.padded 2 d.day := by
  rw [Date.spell, Date.spellYear, if_pos ⟨h, h'⟩]

/-- No digit and no point begins a zone, so that reading digits and fractions ends there. -/
theorem Zone.spell_eq_cons (zone : Zone) :
    ∃ c rest, zone.spell = c :: rest ∧ c.isDigit = false ∧ c ≠ '.' := by
  cases zone with
  | capital => exact ⟨_, _, rfl, rfl, by decide⟩
  | small => exact ⟨_, _, rfl, rfl, by decide⟩
  | ahead hours minutes => exact ⟨_, _, rfl, rfl, by decide⟩
  | behind hours minutes => exact ⟨_, _, rfl, rfl, by decide⟩

/-- **A strict timestamp is read**, and its time is that of a clock in its zone. -/
theorem readStrict?_spell (s : StrictTime) : Timestamp.readStrict? s.spell =
    Timestamp.ofLocal? s.zone.offset s.date (60 * s.hour + s.minute) s.second
      (nanosOf s.fraction) := by
  obtain ⟨-, -, -, hmonth, -, hday⟩ := s.date.isDate
  have hdays := daysInMonth_le s.date.year s.date.month
  have hyear : ((s.date.year.toNat : Nat) : Int) = s.date.year := Int.toNat_of_nonneg s.year_nonneg
  have hyear' : s.date.year.toNat < Nat.pow 10 4 := by
    have hle := s.year_le
    show _ < 10000
    omega
  obtain ⟨c, rest, hzone, hc, hpoint⟩ := s.zone.spell_eq_cons
  have hoffset := readStrictOffset_spell s.zone
  have hclock : (s.hour : Nat) < 24 ∧ (s.minute : Nat) < 60 := ⟨s.hour.isLt, s.minute.isLt⟩
  rw [hzone] at hoffset
  rw [Timestamp.readStrict?, StrictTime.spell, spell_of_year s.year_nonneg s.year_le, hzone]
  simp only [List.append_assoc, List.cons_append]
  -- up to the mark behind the date one number after another: the mark opens cases of its own
  dsimp only [Option.bind_eq_bind]
  rw [readFixed_padded (by decide) hyear', Option.bind_some]
  dsimp only
  rw [readChar_self, Option.bind_some, readFixed_pair (n := s.date.month) (by omega),
    Option.bind_some]
  dsimp only
  rw [readChar_self, Option.bind_some, readFixed_pair (n := s.date.day) (by omega),
    Option.bind_some]
  dsimp only
  rw [hyear, Date.ofYearMonthDay?_self, Option.bind_some, if_pos s.isSeparator]
  simp only [Option.bind_some, readChar_self, readFixed_pair (n := s.hour) (by omega),
    readFixed_pair (n := s.minute) (by omega), readFixed_pair (n := s.second) (by omega),
    readFraction_pointed s.allDigits hc hpoint, hoffset, hclock, and_self, if_true]

/-! ### From local to universal time -/

theorem Zone.offset_lt (zone : Zone) : -1440 < zone.offset ∧ zone.offset < 1440 := by
  cases zone with
  | capital => decide
  | small => decide
  | ahead hours minutes =>
    rw [Zone.offset]
    omega
  | behind hours minutes =>
    rw [Zone.offset]
    omega

/-- **A local time is a time in universal time**, and the minute of that is the local one less the
offset. -/
theorem exists_ofLocal? {offset : Int} {date : Date} {minute second nanos : Nat}
    (hoffset : -1440 < offset ∧ offset < 1440)
    (hyear : leastYear < date.year ∧ date.year < largestYear) (hminute : minute < 1440)
    (hsecond : second ≤ 60) (hnanos : nanos < 1000000000) :
    ∃ t, Timestamp.ofLocal? offset date minute second nanos = some t ∧
      1440 * t.date.dayNumber + t.minute = 1440 * date.dayNumber + minute - offset := by
  have hparts (d : Date) {m : Nat} (hm : m < 1440) : Timestamp.ofParts? d m second nanos =
      some ⟨d, m, second, nanos, hm, hsecond, hnanos⟩ := dif_pos ⟨hm, hsecond, hnanos⟩
  unfold Timestamp.ofLocal?
  dsimp only
  split
  · obtain ⟨d, hd⟩ := Date.exists_previous? hyear.1
    have hnumber := Date.dayNumber_of_previous? hd
    rw [hd, Option.bind_some, hparts d (by omega)]
    refine ⟨_, rfl, ?_⟩
    dsimp only
    omega
  split
  · rw [hparts date (by omega)]
    refine ⟨_, rfl, ?_⟩
    dsimp only
    omega
  · obtain ⟨d, hd⟩ := Date.exists_next? hyear.2
    have hnumber := Date.dayNumber_of_next? hd
    rw [hd, Option.bind_some, hparts d (by omega)]
    refine ⟨_, rfl, ?_⟩
    dsimp only
    omega

/-- A strict timestamp is read as a time in the minute that it denotes. -/
theorem StrictTime.exists_readStrict? (s : StrictTime) :
    ∃ t, Timestamp.readStrict? s.spell = some t ∧
      1440 * t.date.dayNumber + t.minute = s.universalMinute := by
  have hyear : leastYear < s.date.year ∧ s.date.year < largestYear := by
    have hle := s.year_nonneg
    have hle' := s.year_le
    unfold leastYear largestYear
    omega
  have hclock : 60 * (s.hour : Nat) + s.minute < 1440 := by omega
  obtain ⟨t, ht, hminute⟩ := exists_ofLocal? s.zone.offset_lt hyear hclock
    (Nat.le_of_lt_succ s.second.isLt) (nanosOf_lt s.allDigits)
  refine ⟨t, (readStrict?_spell s).trans ht, hminute.trans ?_⟩
  unfold StrictTime.universalMinute
  omega

namespace BirthDate

/-- A date that something follows is not a plain one. -/
theorem readPlain?_spell (s : StrictTime) : readPlain? s.spell = none := by
  rw [readPlain?, StrictTime.spell]
  simp only [List.append_assoc, List.cons_append]
  rw [readDate_spell fun _ ↦ rfl]

/-- The day of the minute that a strict timestamp denotes. -/
theorem exists_parse?_text (s : StrictTime) :
    ∃ d, parse? s.text = some d ∧ d.dayNumber = s.universalMinute / 1440 := by
  obtain ⟨t, ht, hminute⟩ := s.exists_readStrict?
  have hlt := t.minute_lt
  refine ⟨t.date, ?_, by omega⟩
  rw [parse?, StrictTime.text, String.toList_ofList, readPlain?_spell, ht, Option.map_some]

/-- **A date of birth is a day in universal time**: each strict timestamp is read as the day in
which the instant lies that it denotes, days being counted from the first of January 1970
(`Date.dayNumber_of_next?`); so two timestamps of one instant are read as the same date, whatever
their offsets. Every date is read from its text, and so is the date that any text is read as. -/
theorem parse?_universal_day :
    (∀ s : StrictTime, ∃ d, parse? s.text = some d ∧ d.dayNumber = s.instant.1 / 1440) ∧
    (∀ s t : StrictTime, s.instant = t.instant → parse? s.text = parse? t.text) ∧
    (∀ d : Date, parse? d.text = some d) ∧
    ∀ raw d, parse? raw = some d → parse? d.text = some d := by
  refine ⟨exists_parse?_text, fun s t h ↦ ?_, parse?_text, fun _ d _ ↦ parse?_text d⟩
  have hminute : s.universalMinute = t.universalMinute := congrArg Prod.fst h
  obtain ⟨d, hd, hday⟩ := exists_parse?_text s
  obtain ⟨e, he, hday'⟩ := exists_parse?_text t
  have hsame : some d = some e := by
    rw [← Date.ofDayNumber?_dayNumber d, ← Date.ofDayNumber?_dayNumber e, hday, hday', hminute]
  rw [hd, he, hsame]

/-- A leap second of the last minute of the year 9999, on a clock a minute behind. -/
example : parse? "9999-12-31T23:59:60.5-00:01" = parse? "+10000-01-01" := by decide +kernel

end BirthDate

end ContributionRegistry.Calendar
