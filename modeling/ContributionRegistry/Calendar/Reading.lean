import ContributionRegistry.Calendar.Date

/-!
# Reading numbers out of dates and times

The pieces that the readers of dates and timestamps share. A reader takes what it understands from
the front of a text and leaves the rest; it gives nothing where the text does not begin with what it
looks for.

Lenient and strict timestamps differ in what may stand between the pieces and in how many digits a
number may have, so these are arguments here: `readDate` takes what may stand before a hyphen,
`readOffset` what may stand between hours and minutes, and numbers are read at a fixed width
(`readFixed`) or up to one (`readNumber`).
-/

namespace ContributionRegistry.Calendar

/-- The digits at the front of a text, at most `limit` of them, and the rest of the text. -/
def takeDigits : Nat → List Char → List Char × List Char
  | limit + 1, c :: rest =>
    if c.isDigit then
      let (digits, rest) := takeDigits limit rest
      (c :: digits, rest)
    else ([], c :: rest)
  | _, rest => ([], rest)

/-- A number of at least one and at most `limit` digits. -/
def readNumber (limit : Nat) (text : List Char) : Option (Nat × List Char) :=
  match takeDigits limit text with
  | ([], _) => none
  | (digits, rest) => some (Text.ofDigits digits, rest)

/-- A number of exactly `count` digits. -/
def readFixed (count : Nat) (text : List Char) : Option (Nat × List Char) :=
  let (digits, rest) := takeDigits count text
  if digits.length = count ∧ 0 < count then some (Text.ofDigits digits, rest) else none

/-- One given character. -/
def readChar (c : Char) : List Char → Option (List Char)
  | d :: rest => if c = d then some rest else none
  | [] => none

/-- Blanks, then a number of one or two digits. -/
def readPair (text : List Char) : Option (Nat × List Char) :=
  readNumber 2 (Text.trimStart text)

/-- Blanks, then a year: with a sign, of any number of digits, else of at most four. -/
def readYear (text : List Char) : Option (Int × List Char) :=
  match Text.trimStart text with
  | '-' :: rest => (readNumber rest.length rest).map fun (n, rest) ↦ (-(n : Int), rest)
  | '+' :: rest => (readNumber rest.length rest).map fun (n, rest) ↦ ((n : Int), rest)
  | rest => (readNumber 4 rest).map fun (n, rest) ↦ ((n : Int), rest)

/-- Year, month and day with hyphens between them. `gap` is what may stand before a hyphen. -/
def readDate (gap : List Char → List Char) (text : List Char) : Option (Date × List Char) := do
  let (year, rest) ← readYear text
  let rest ← readChar '-' (gap rest)
  let (month, rest) ← readPair rest
  let rest ← readChar '-' (gap rest)
  let (day, rest) ← readPair rest
  let date ← Date.ofYearMonthDay? year month day
  return (date, rest)

/-- The digits of a fraction of a second in nanoseconds; digits after the ninth are passed over. -/
def readNanos (text : List Char) : Option (Nat × List Char) :=
  match takeDigits 9 text with
  | ([], _) => none
  | (digits, rest) =>
    some (Text.ofDigits digits * Nat.pow 10 (9 - digits.length), rest.dropWhile Char.isDigit)

/-- An optional fraction of a second. -/
def readFraction : List Char → Option (Nat × List Char)
  | '.' :: rest => readNanos rest
  | rest => some (0, rest)

/-- The sign of an offset from universal time, as a factor. U+2212 is a minus sign too. -/
def readSign : List Char → Option (Int × List Char)
  | '+' :: rest => some (1, rest)
  | '-' :: rest => some (-1, rest)
  | '\u2212' :: rest => some (-1, rest)
  | _ => none

/-- A sign, two digits of hours, what `between` accepts, and two digits of minutes: an offset from
universal time in minutes, less than a day to either side. -/
def readOffset (between : List Char → Option (List Char)) (text : List Char) :
    Option (Int × List Char) := do
  let (sign, rest) ← readSign text
  let (hours, rest) ← readFixed 2 rest
  let rest ← between rest
  let (minutes, rest) ← readFixed 2 rest
  if hours < 24 ∧ minutes < 60 then return (sign * (60 * hours + minutes : Nat), rest)
  else none

end ContributionRegistry.Calendar
