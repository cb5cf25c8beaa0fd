/-!
# Binary floating point with 53 significant bits

The finite numbers of the 64-bit binary format without their sign: `mantissa * 2 ^ exponent` with a
mantissa below `2 ^ 53` and an exponent from -1074 to 971. Rounding is to the nearest such number,
to the even mantissa of two that are equally near, and is computed on exact ratios of natural
numbers (`Binary64.ofRatio?`). It gives nothing where the result would be too large.

Products and quotients are rounded once, as the format prescribes. Decimal literals are not: their
digits are scaled by a power of ten in the format itself (`Binary64.scale?`), which takes a rounding
for the digits, one for the power and one for the product or quotient. A literal is therefore not
always read as the number nearest to it.
-/

namespace ContributionRegistry.Decimal

/-- The number `mantissa * 2 ^ exponent`. -/
structure Binary64 where
  /-- The significant bits as a number. -/
  mantissa : Nat
  /-- The power of two that the mantissa stands in front of. -/
  exponent : Int
  deriving DecidableEq, Repr

/-- The whole number nearest to `n / d`, the even one of two equally near. -/
def roundedQuotient (n d : Nat) : Nat :=
  let q := n / d
  let r := n % d
  if 2 * r < d then q else if d < 2 * r then q + 1 else q + q % 2

namespace Binary64

/-- The smallest exponent; numbers with it may have mantissas below `2 ^ 52`. -/
def leastExponent : Int := -1074

/-- The largest exponent. -/
def largestExponent : Int := 971

/-- Zero. -/
def zero : Binary64 := ⟨0, leastExponent⟩

/-- Numerator of the number as a ratio. -/
def numerator (x : Binary64) : Nat := x.mantissa * Nat.pow 2 x.exponent.toNat

/-- Denominator of the number as a ratio. -/
def denominator (x : Binary64) : Nat := Nat.pow 2 (-x.exponent).toNat

/-- The exponent with which `n / d` has a mantissa of 53 bits, or the least one if that is larger.
-/
def exponentFor (n d : Nat) : Int :=
  let guess : Int := (Nat.log2 n : Int) - Nat.log2 d - 53
  let scaled := (n * Nat.pow 2 (-guess).toNat) / (d * Nat.pow 2 guess.toNat)
  max leastExponent (if scaled < Nat.pow 2 53 then guess else guess + 1)

/-- The number nearest to `n / d`, unless that is beyond the largest one. -/
def ofRatio? (n d : Nat) : Option Binary64 :=
  if n = 0 then some zero else
    let e := exponentFor n d
    let m := roundedQuotient (n * Nat.pow 2 (-e).toNat) (d * Nat.pow 2 e.toNat)
    let x : Binary64 := if m < Nat.pow 2 53 then ⟨m, e⟩ else ⟨m / 2, e + 1⟩
    if x.exponent ≤ largestExponent then some x else none

/-- The number nearest to a natural number. -/
def ofNat? (n : Nat) : Option Binary64 := ofRatio? n 1

/-- The rounded product. -/
def mul? (x y : Binary64) : Option Binary64 :=
  ofRatio? (x.numerator * y.numerator) (x.denominator * y.denominator)

/-- The rounded quotient; `y` is not zero. -/
def div? (x y : Binary64) : Option Binary64 :=
  ofRatio? (x.numerator * y.denominator) (x.denominator * y.numerator)

/-- The number nearest to a power of ten. -/
def powerOfTen? (k : Nat) : Option Binary64 := ofRatio? (Nat.pow 10 k) 1

/-! ### Scaling by powers of ten -/

/-- The largest power of ten that the format holds is `10 ^ 308`. -/
def largestPower : Nat := 308

/-- `x` divided by `10 ^ 308` so many times and then by `10 ^ last`, rounded after each division.
Nothing is left to divide once the number is zero. -/
def scaleDown (last : Nat) : Nat → Binary64 → Option Binary64
  | 0, x => (powerOfTen? last).bind x.div?
  | times + 1, x =>
    if x.mantissa = 0 then some x
    else (powerOfTen? largestPower).bind fun p ↦ (x.div? p).bind (scaleDown last times)

/-- `x * 10 ^ k`, in one rounded multiplication. Beyond `10 ^ 308` only zero can be scaled. -/
def scaleUp (k : Nat) (x : Binary64) : Option Binary64 :=
  if k ≤ largestPower then (powerOfTen? k).bind x.mul?
  else if x.mantissa = 0 then some x
  else none

/-- `x * 10 ^ k` for a whole exponent, rounded as `scaleUp` and `scaleDown` round. -/
def scale? (k : Int) (x : Binary64) : Option Binary64 :=
  if 0 ≤ k then scaleUp k.toNat x
  else
    let times := ((-k).toNat - 1) / largestPower
    scaleDown ((-k).toNat - largestPower * times) times x

end Binary64

end ContributionRegistry.Decimal
