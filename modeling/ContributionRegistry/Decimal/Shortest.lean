import ContributionRegistry.Decimal.Binary64
import ContributionRegistry.Text.Digits

/-!
# Shortest decimals

The decimal with the fewest digits among those that round to a given floating-point number; of
several, the one nearest to the number. Which one of two equally near is taken is a parameter
(`Tie`).

The numbers that round to `m * 2 ^ e` form an interval: half a step of the mantissa to either side,
a quarter below where the step below is half as wide, ends included exactly if `m` is even. For 1,
2, … 17 digits the two neighbours of the number on the grid with so many digits are tested; if any
point of a grid lies in the interval, so does one of the two neighbours.

A decimal is written with a point (`Scientific.positional`), or so only in a middle range and with
an exponent outside of it (`Scientific.compact`).
-/

namespace ContributionRegistry.Decimal

/-- The decimal number `digits * 10 ^ exponent`. -/
structure Scientific where
  /-- The digits as a number. -/
  digits : Nat
  /-- The power of ten that the digits stand in front of. -/
  exponent : Int
  deriving DecidableEq, Repr

/-- Which of two equally near decimals is taken: the larger, or the one with an even last digit. -/
inductive Tie where
  | up
  | even
  deriving DecidableEq, Repr

/-- The decimal `c * 10 ^ p`, with the last digit dropped if it is a zero. -/
def Scientific.ofMultiple (c : Nat) (p : Int) : Scientific :=
  if c % 10 = 0 then ⟨c / 10, p + 1⟩ else ⟨c, p⟩

/-- A number with the interval that rounds to it, all in quarters of the mantissa's last place. -/
structure RoundingInterval where
  /-- The lower end, in quarters of a step. -/
  lower : Nat
  /-- The number itself, in quarters of a step. -/
  value : Nat
  /-- The upper end, in quarters of a step. -/
  upper : Nat
  /-- The power of two of a quarter of a step. -/
  exponent : Int
  /-- Whether the ends round to the number as well. -/
  closed : Bool

/-- The interval of the numbers that round to `x`. -/
def Binary64.interval (x : Binary64) : RoundingInterval where
  lower := 4 * x.mantissa - if x.mantissa = Nat.pow 2 52 ∧ x.exponent ≠ leastExponent then 1 else 2
  value := 4 * x.mantissa
  upper := 4 * x.mantissa + 2
  exponent := x.exponent - 2
  closed := x.mantissa % 2 = 0

namespace RoundingInterval

/-- A number of quarters, on a common scale with `ofDecimal`. -/
def ofQuarters (i : RoundingInterval) (p : Int) (quarters : Nat) : Nat :=
  quarters * Nat.pow 2 i.exponent.toNat * Nat.pow 10 (-p).toNat

/-- A decimal `c * 10 ^ p`, on a common scale with `ofQuarters`. -/
def ofDecimal (i : RoundingInterval) (p : Int) (c : Nat) : Nat :=
  c * Nat.pow 10 p.toNat * Nat.pow 2 (-i.exponent).toNat

/-- Whether the decimal `c * 10 ^ p` rounds to the number. -/
def holds (i : RoundingInterval) (p : Int) (c : Nat) : Bool :=
  let y := i.ofDecimal p c
  let low := i.ofQuarters p i.lower
  let high := i.ofQuarters p i.upper
  if i.closed then low ≤ y && y ≤ high else low < y && y < high

/-- Whether `c` is to be preferred to `c + 1` for a number that lies `rest` parts of `step` above
`c`. -/
def prefersLower (tie : Tie) (c rest step : Nat) : Bool :=
  2 * rest < step || (2 * rest == step && tie == .even && c % 2 == 0)

/-- The better of the number's two neighbours among the multiples of `10 ^ p`, if one of them rounds
to it. -/
def onGrid? (tie : Tie) (i : RoundingInterval) (p : Int) : Option Scientific :=
  let v := i.ofQuarters p i.value
  let step := i.ofDecimal p 1
  let c := v / step
  match i.holds p c, i.holds p (c + 1) with
  | true, true =>
    some (.ofMultiple (if prefersLower tie c (v % step) step then c else c + 1) p)
  | true, false => some (.ofMultiple c p)
  | false, true => some (.ofMultiple (c + 1) p)
  | false, false => none

end RoundingInterval

/-- The least `k` with `n / d < 10 ^ k`, for a ratio above zero. -/
def magnitude (n d : Nat) : Int :=
  if d ≤ n then (Text.digitsOf (n / d)).length
  else
    let t := (Text.digitsOf (d / n)).length
    if n * Nat.pow 10 (t - 1) = d then 2 - (t : Int) else 1 - (t : Int)

/-- The first of the grids with `17 - left`, `18 - left`, … 17 digits that has a decimal which
rounds to the number. The last grid always has one; its lower neighbour stands in the last line. -/
def firstGrid (tie : Tie) (i : RoundingInterval) (k : Int) : Nat → Scientific
  | 0 => ⟨i.ofQuarters (k - 17) i.value / i.ofDecimal (k - 17) 1, k - 17⟩
  | left + 1 => (i.onGrid? tie (k - (17 - left : Nat))).getD (firstGrid tie i k left)

/-- The shortest decimal that rounds to `x`. -/
def Binary64.shortest (tie : Tie) (x : Binary64) : Scientific :=
  if x.mantissa = 0 then ⟨0, 0⟩
  else firstGrid tie x.interval (magnitude x.numerator x.denominator) 17

namespace Scientific

/-- A digit string with a point before its last `places` digits, zeros filled in on the left. -/
def withPoint (places : Nat) (digits : List Char) : List Char :=
  let filled := List.replicate (places + 1 - digits.length) '0' ++ digits
  filled.take (filled.length - places) ++ '.' :: filled.drop (filled.length - places)

/-- Positional writing without an exponent; a whole number has no point. -/
def positional (d : Scientific) : List Char :=
  if 0 ≤ d.exponent then
    if d.digits = 0 then ['0']
    else Text.digitsOf d.digits ++ List.replicate d.exponent.toNat '0'
  else withPoint (-d.exponent).toNat (Text.digitsOf d.digits)

/-- Positional writing for numbers from 0.00001 to below `10 ^ 16`, with `.0` on whole ones;
otherwise one digit before the point and the power of ten, with its sign, after an `e`. -/
def compact (d : Scientific) : List Char :=
  let ds := Text.digitsOf d.digits
  let k : Int := ds.length + d.exponent
  if d.digits = 0 then ['0', '.', '0']
  else if 0 ≤ d.exponent ∧ k ≤ 16 then positional d ++ ['.', '0']
  else if -5 < k ∧ k ≤ 16 then positional d
  else
    let power := Text.digitsOf (k - 1).natAbs
    ds.take 1 ++ (if ds.length = 1 then [] else '.' :: ds.drop 1) ++
      'e' :: (if k - 1 < 0 then '-' else '+') :: power

end Scientific

end ContributionRegistry.Decimal
