import ContributionRegistry.Calendar.Reading

/-!
# Timestamps

A point in universal time, to the nanosecond. The second of a minute may be 60: a leap second stays
one. Timestamps are written in universal time with `T` and `Z` and with 0, 3, 6 or 9 fraction
digits, the fewest that are exact. They are read leniently (`Timestamp.parse?`) or by the letter of
RFC 3339 (`Timestamp.readStrict?`).

A clock that is ahead of universal time or behind it is brought in step when it is read
(`Timestamp.ofLocal?`); the offset is not kept. It is less than a day, so the date moves by at most
one day, and at either end of the calendar there may be none to move to.

**Milliseconds.** Databases keep timestamps as milliseconds, and records are stamped with whole ones
(`Timestamp.wholeMillis`). A leap second has no number of its own there.

**Dates of birth.** A date of birth is given as a date or as a timestamp; of a timestamp the day in
universal time counts (`BirthDate.parse?`). It is always written as a date.
-/

namespace ContributionRegistry.Calendar

/-- A point in universal time: a date, the minute of the day, the second and its nanoseconds. -/
structure Timestamp where
  /-- The day in universal time. -/
  date : Date
  /-- The minute of the day. -/
  minute : Nat
  /-- The second of the minute, 60 in a leap second. -/
  second : Nat
  /-- The nanoseconds since the second began. -/
  nanos : Nat
  /-- A day has 1440 minutes. -/
  minute_lt : minute < 1440
  /-- A minute has 60 seconds, or 61 with a leap second. -/
  second_le : second ≤ 60
  /-- A second has so many nanoseconds. -/
  nanos_lt : nanos < 1000000000
  deriving DecidableEq, Repr

namespace Timestamp

/-- The order of time. A leap second comes after the second before it and before the next minute. -/
def precedes (s t : Timestamp) : Bool :=
  s.date.precedes t.date || (s.date == t.date && (s.minute < t.minute ||
    (s.minute == t.minute && (s.second < t.second ||
      (s.second == t.second && s.nanos < t.nanos)))))

/-- The start of a day. -/
def startOf (d : Date) : Timestamp := ⟨d, 0, 0, 0, by decide, by decide, by decide⟩

/-- A day does not start with a leap second. -/
theorem second_startOf_lt (d : Date) : (startOf d).second < 60 := show 0 < 60 by decide

/-- The time with these parts, if they are in range. -/
def ofParts? (date : Date) (minute second nanos : Nat) : Option Timestamp :=
  if h : minute < 1440 ∧ second ≤ 60 ∧ nanos < 1000000000 then
    some ⟨date, minute, second, nanos, h.1, h.2.1, h.2.2⟩
  else none

/-- The same point in time, read off a clock that is `offset` minutes ahead of universal time, less
than a day to either side. There is none if it lies outside the calendar. -/
def ofLocal? (offset : Int) (date : Date) (minute second nanos : Nat) : Option Timestamp :=
  let shifted : Int := minute - offset
  if shifted < 0 then
    date.previous?.bind fun d ↦ ofParts? d (shifted + 1440).toNat second nanos
  else if shifted < 1440 then ofParts? date shifted.toNat second nanos
  else date.next?.bind fun d ↦ ofParts? d (shifted - 1440).toNat second nanos

/-! ### Writing -/

/-- The fraction of a second: nothing, or a point and 3, 6 or 9 digits. -/
def spellFraction (nanos : Nat) : List Char :=
  if nanos = 0 then []
  else if nanos % 1000000 = 0 then '.' :: Text.padded 3 (nanos / 1000000)
  else if nanos % 1000 = 0 then '.' :: Text.padded 6 (nanos / 1000)
  else '.' :: Text.padded 9 nanos

/-- A timestamp as characters. -/
def spell (t : Timestamp) : List Char :=
  t.date.spell ++ 'T' :: Text.padded 2 (t.minute / 60) ++ ':' :: Text.padded 2 (t.minute % 60) ++
    ':' :: Text.padded 2 t.second ++ spellFraction t.nanos ++ ['Z']

/-- The written form of a timestamp. -/
def text (t : Timestamp) : String :=
  String.ofList t.spell

/-! ### Reading -/

/-- The marks between date and time. -/
def isSeparator (c : Char) : Bool := c = 'T' || c = 't' || c = ' '

/-- The offset of a lenient timestamp: `Z`, `z`, `UTC` in any case, or a signed offset whose hours
and minutes have any run of colons and blanks between them. -/
def readLenientOffset : List Char → Option (Int × List Char)
  | 'Z' :: rest => some (0, rest)
  | 'z' :: rest => some (0, rest)
  | a :: b :: c :: rest =>
    if [a, b, c].map Char.toUpper = ['U', 'T', 'C'] then some (0, rest)
    else
      readOffset (fun r ↦ some (r.dropWhile fun d ↦ d == ':' || Text.isBlank d))
        (a :: b :: c :: rest)
  | _ => none

/-- Hour, minute, second and fraction with colons between them, and blanks before each number and
each colon. -/
def readClock (text : List Char) : Option ((Nat × Nat × Nat × Nat) × List Char) := do
  let (hour, rest) ← readPair text
  let rest ← readChar ':' (Text.trimStart rest)
  let (minute, rest) ← readPair rest
  let rest ← readChar ':' (Text.trimStart rest)
  let (second, rest) ← readPair rest
  let (nanos, rest) ← readFraction rest
  if hour < 24 ∧ minute < 60 then return ((hour, minute, second, nanos), rest) else none

/-- Reads a timestamp leniently: numbers may lack leading zeros, blanks may stand around all parts,
years may have a sign, and a space may stand for the `T`. Seconds and offset are required. -/
def parse? (raw : String) : Option Timestamp := do
  let (date, rest) ← readDate Text.trimStart raw.toList
  let rest ← match rest with
    | c :: rest => if isSeparator c then some rest else none
    | [] => none
  let ((hour, minute, second, nanos), rest) ← readClock rest
  let (offset, rest) ← readLenientOffset (Text.trimStart rest)
  if Text.trimStart rest = [] then ofLocal? offset date (60 * hour + minute) second nanos else none

/-- The offset of a strict timestamp: `Z`, `z`, or a sign, two digits, a colon and two digits. -/
def readStrictOffset : List Char → Option (Int × List Char)
  | 'Z' :: rest => some (0, rest)
  | 'z' :: rest => some (0, rest)
  | rest => readOffset (readChar ':') rest

/-- Reads a timestamp by the letter of RFC 3339: all numbers at full width, no blanks but one space
that may stand for the `T`. -/
def readStrict? (raw : List Char) : Option Timestamp := do
  let (year, rest) ← readFixed 4 raw
  let rest ← readChar '-' rest
  let (month, rest) ← readFixed 2 rest
  let rest ← readChar '-' rest
  let (day, rest) ← readFixed 2 rest
  let date ← Date.ofYearMonthDay? year month day
  let rest ← match rest with
    | c :: rest => if isSeparator c then some rest else none
    | [] => none
  let (hour, rest) ← readFixed 2 rest
  let rest ← readChar ':' rest
  let (minute, rest) ← readFixed 2 rest
  let rest ← readChar ':' rest
  let (second, rest) ← readFixed 2 rest
  let (nanos, rest) ← readFraction rest
  let (offset, rest) ← readStrictOffset rest
  if rest = [] ∧ hour < 24 ∧ minute < 60 then
    ofLocal? offset date (60 * hour + minute) second nanos
  else none

/-! ### Milliseconds -/

/-- Milliseconds since the start of 1970, rounded towards the past. A leap second counts as the
first second of the next minute. -/
def unixMillis (t : Timestamp) : Int :=
  ((t.date.dayNumber * 1440 + t.minute) * 60 + t.second) * 1000 + (t.nanos / 1000000 : Nat)

/-- The time so many milliseconds after the start of 1970. -/
def ofUnixMillis? (n : Int) : Option Timestamp :=
  (Date.ofDayNumber? (n / 86400000)).bind fun d ↦
    let millis := (n % 86400000).toNat
    ofParts? d (millis / 60000) (millis / 1000 % 60) (millis % 1000 * 1000000)

/-- What a clock shows, to the millisecond. -/
def wholeMillis (t : Timestamp) : Timestamp := (ofUnixMillis? t.unixMillis).getD t

end Timestamp

/-! ### Dates of birth -/

namespace BirthDate

/-- Reads a date that takes up the whole text. -/
def readPlain? (raw : List Char) : Option Date :=
  match readDate id raw with
  | some (date, []) => some date
  | _ => none

/-- Reads a date, or else a strict timestamp, whose day in universal time it is. -/
def parse? (raw : String) : Option Date :=
  match readPlain? raw.toList with
  | some date => some date
  | none => (Timestamp.readStrict? raw.toList).map Timestamp.date

end BirthDate

end ContributionRegistry.Calendar
