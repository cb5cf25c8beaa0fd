import ContributionRegistry.Failure
import ContributionRegistry.Text.Blank
import ContributionRegistry.Text.Digits

/-!
# Amounts of money

An amount is a signed 64-bit number of minor units, two decimal places to the unit. That the number
is in range is part of the amount, so whatever is computed of amounts either yields one or says that
it does not (`Amount.ofMinorUnits?`).

**Writing.** An amount is written with exactly two fraction digits (`Amount.text`).

**Reading** is laxer (`Amount.parse`): blanks around the number, one sign, up to sixteen digits
before the point, and any number of digits after it as long as those after the second are zeros. The
number of digits keeps all intermediate results small, so what is read is exact or refused, and
never rounded.

The fraction is cut after its second byte before anything is checked. Where that byte ends inside a
character the reading is abandoned (`Failure.abandoned`), whatever else the text holds. This is the
one way in which reading an amount does not come to an end of its own, and the operations that read
amounts inherit it.
-/

namespace ContributionRegistry

/-- A signed 64-bit number of minor units. -/
structure Amount where
  /-- The number of hundredths. -/
  minorUnits : Int
  /-- The number is not below the least one of 64 bits. -/
  ge_least : -9223372036854775808 ≤ minorUnits
  /-- The number is not above the largest one of 64 bits. -/
  lt_bound : minorUnits < 9223372036854775808
  deriving DecidableEq, Repr

/-- A text or number that is no amount. -/
structure InvalidAmount where
  /-- The text, or the written form of the number, as it was given. -/
  raw : String
  deriving DecidableEq, Repr

/-- The wording of the refusal. -/
def InvalidAmount.message (e : InvalidAmount) : String :=
  "Invalid amount '" ++ e.raw ++ "', expected a decimal with at most 2 fractional digits"

namespace Amount

/-- The amount of so many minor units, if 64 bits hold the number. -/
def ofMinorUnits? (n : Int) : Option Amount :=
  if h : -9223372036854775808 ≤ n ∧ n < 9223372036854775808 then some ⟨n, h.1, h.2⟩ else none

/-- No money. -/
def zero : Amount := ⟨0, by decide, by decide⟩

instance : Inhabited Amount := ⟨zero⟩

/-- The largest amount of a contribution: ten digits before the point. -/
def largest : Amount := ⟨999999999999, by decide, by decide⟩

/-- Whether the amount is below zero. -/
def isNegative (a : Amount) : Bool := a.minorUnits < 0

/-! ### Writing -/

/-- A number of minor units as units, a point and two digits, a minus sign in front if negative. -/
def spell (minorUnits : Int) : List Char :=
  let n := minorUnits.natAbs
  (if minorUnits < 0 then ['-'] else []) ++
    Text.digitsOf (n / 100) ++ '.' :: Text.padded 2 (n % 100)

/-- The written form of an amount. -/
def text (a : Amount) : String :=
  String.ofList (spell a.minorUnits)

/-! ### Reading -/

/-- Splits off one sign. The first component tells whether the number is negative. -/
def splitSign : List Char → Bool × List Char
  | '-' :: rest => (true, rest)
  | '+' :: rest => (false, rest)
  | rest => (false, rest)

/-- Splits at the first point. Without a point the fraction is empty. -/
def splitPoint : List Char → List Char × List Char
  | [] => ([], [])
  | c :: rest =>
    if c = '.' then ([], rest) else
      let (whole, fraction) := splitPoint rest
      (c :: whole, fraction)

/-- Cuts a fraction after its second byte, or at its end if it is shorter. There is no cut if the
second byte is not the last one of a character. -/
def cutFraction : List Char → Option (List Char × List Char)
  | [] => some ([], [])
  | [c] => if c.utf8Size ≤ 2 then some ([c], []) else none
  | c :: d :: rest =>
    if c.utf8Size = 2 then some ([c], d :: rest)
    else if c.utf8Size = 1 ∧ d.utf8Size = 1 then some ([c, d], rest)
    else none

/-- Whether the parts of a number are in order: one to sixteen digits, then at most two fraction
digits, then zeros. -/
def wellFormed (whole cents zeros : List Char) : Bool :=
  !whole.isEmpty && whole.length ≤ 16 && Text.allDigits whole && Text.allDigits cents &&
    zeros.all (· == '0')

/-- The hundredths that at most two fraction digits denote. -/
def hundredths : List Char → Nat
  | [] => 0
  | [c] => 10 * Text.ofDigits [c]
  | cents => Text.ofDigits cents

/-- Reads the written form of an amount, and the laxer forms described above. -/
def parse (raw : String) : Attempt InvalidAmount Amount :=
  let (negative, number) := splitSign (Text.trim raw.toList)
  let (whole, fraction) := splitPoint number
  match cutFraction fraction with
  | none => .error .abandoned
  | some (cents, zeros) =>
    if wellFormed whole cents zeros then
      let n : Nat := Text.ofDigits whole * 100 + hundredths cents
      match ofMinorUnits? (if negative then -(n : Int) else n) with
      | some a => .ok a
      | none => .refuse ⟨raw⟩
    else .refuse ⟨raw⟩

/-- The amount of a whole number of units. -/
def ofUnits (units : Int) : Except InvalidAmount Amount :=
  match ofMinorUnits? (units * 100) with
  | some a => .ok a
  | none => .error ⟨toString units⟩

/-! ### Small facts -/

/-- The number of an amount is in range. -/
theorem ofMinorUnits?_self (a : Amount) : ofMinorUnits? a.minorUnits = some a :=
  dif_pos ⟨a.ge_least, a.lt_bound⟩

/-- An amount is known by its number. -/
theorem eq_of_minorUnits_eq {a b : Amount} (h : a.minorUnits = b.minorUnits) : a = b := by
  cases a; cases b; cases h; rfl

end Amount

end ContributionRegistry
