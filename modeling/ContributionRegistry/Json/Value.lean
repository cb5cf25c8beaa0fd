import ContributionRegistry.Decimal.Binary64

/-!
# JSON values

The tree of a JSON text, as far as it can be read: where a text stops being JSON the tree has the
leaf `broken`, and nothing after it. A reader that walks the tree in order therefore meets the first
problem of the text first, be it a value of the wrong kind or a mistake in the text itself.

A string whose escapes or bytes denote no text is a leaf of its own (`string none`): it is no
obstacle to passing over the value, only to using it. The same goes for numbers, which are kept as
written; `NumberLiteral.value` says what number a literal denotes.

**Numbers.** A literal without point and exponent that fits in 64 bits denotes an integer, exactly.
Every other one denotes a floating-point number, or is out of range. Its digits are gathered into a
word of 64 bits as long as they fit (`gatherWhole`, `gatherFraction`), and those that do not are
only counted.
-/

namespace ContributionRegistry

/-- A number as written: sign, digits before and after the point, exponent. -/
structure NumberLiteral where
  /-- Whether there is a minus sign. -/
  negative : Bool
  /-- The digits before the point. -/
  whole : List Char
  /-- The digits behind the point, none if there is no point. -/
  fraction : List Char
  /-- The exponent, if there is one. -/
  exponent : Option Int
  deriving DecidableEq, Repr

/-- A JSON text as a tree. -/
inductive Json where
  | null
  | bool (b : Bool)
  | number (literal : NumberLiteral)
  /-- A string; without content if its escapes or bytes denote no text. -/
  | string (content : Option String)
  | array (items : List Json)
  | object (members : List (Option String × Json))
  /-- Here the text stops being JSON. -/
  | broken
  deriving Repr

namespace Json

/-- The string with this content. -/
def ofText (s : String) : Json := .string (some s)

/-- A member of an object. -/
def member (name : String) (value : Json) : Option String × Json := (some name, value)

/-- The integer `n`, written in digits. -/
def ofNat (n : Nat) : Json := .number ⟨false, Nat.toDigits 10 n, [], none⟩

mutual

/-- Whether a value reads to its end without a mistake in the text. -/
def isWhole : Json → Bool
  | .array items => allWhole items
  | .object members => membersWhole members
  | .broken => false
  | _ => true

/-- `isWhole` of every item. -/
def allWhole : List Json → Bool
  | [] => true
  | item :: rest => isWhole item && allWhole rest

/-- `isWhole` of every member's value. -/
def membersWhole : List (Option String × Json) → Bool
  | [] => true
  | (_, value) :: rest => isWhole value && membersWhole rest

end

end Json

/-! ### What a literal denotes -/

/-- The number that a literal denotes. -/
inductive NumberValue where
  /-- An integer of 64 bits, with or without sign. -/
  | integer (n : Int)
  /-- A floating-point number with its sign. -/
  | double (negative : Bool) (magnitude : Decimal.Binary64)
  /-- A number beyond the largest floating-point number. -/
  | outOfRange
  deriving DecidableEq, Repr

namespace NumberLiteral

/-- The first number that 64 bits do not hold. -/
def wordBound : Nat := 18446744073709551616

/-- Appends digits to `sofar` up to the first one that 64 bits do not hold. With the number comes
the count of digits that were left off. -/
def gatherWhole : Nat → List Char → Nat × Nat
  | sofar, [] => (sofar, 0)
  | sofar, c :: rest =>
    let next := 10 * sofar + (c.toNat - '0'.toNat)
    if next < wordBound then gatherWhole next rest else (sofar, rest.length + 1)

/-- Appends digits to `sofar` up to the first one that 64 bits do not hold. With the number comes
the count of digits that were appended. -/
def gatherFraction : Nat → List Char → Nat × Nat
  | sofar, [] => (sofar, 0)
  | sofar, c :: rest =>
    let next := 10 * sofar + (c.toNat - '0'.toNat)
    if next < wordBound then
      let (n, places) := gatherFraction next rest
      (n, places + 1)
    else (sofar, 0)

/-- The floating-point number of a literal: as many digits as 64 bits hold, scaled by one power of
ten. -/
def toDouble (l : NumberLiteral) : NumberValue :=
  let (sofar, dropped) := gatherWhole 0 l.whole
  let (significand, places) := gatherFraction sofar l.fraction
  let exponent : Int := dropped - places + l.exponent.getD 0
  match (Decimal.Binary64.ofNat? significand).bind (·.scale? exponent) with
  | some x => .double l.negative x
  | none => .outOfRange

/-- What a literal denotes. Whole numbers that 64 bits hold, with a sign if negative, are integers;
all others, and `-0`, are floating-point numbers. -/
def value (l : NumberLiteral) : NumberValue :=
  if l.fraction = [] ∧ l.exponent = none then
    let n := Nat.ofDigitChars 10 l.whole 0
    if l.negative then
      if 0 < n ∧ n ≤ 9223372036854775808 then .integer (-(n : Int)) else l.toDouble
    else if n < wordBound then .integer n
    else l.toDouble
  else l.toDouble

end NumberLiteral

end ContributionRegistry
