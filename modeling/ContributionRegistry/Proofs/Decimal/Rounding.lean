import ContributionRegistry.Decimal.Shortest
import Mathlib.Algebra.Order.Field.Basic
import Mathlib.Algebra.Order.Field.Power
import Mathlib.Data.Rat.Cast.Order
import Mathlib.Tactic.FieldSimp
import Mathlib.Tactic.GCongr
import Mathlib.Tactic.Linarith
import Mathlib.Tactic.NormNum
import Mathlib.Tactic.Positivity
import Mathlib.Tactic.Ring

/-!
# Rounding to binary floating point

What rounding a ratio gives, told in rational numbers. The exponent is chosen so that the ratio has
53 bits before the point of the mantissa, or as many as the least exponent leaves
(`exponentFor_spec`); the mantissa is then the nearest whole number, the even one of two
(`nearest_roundedQuotient`). So the floating-point number is regular, the ratio lies in the interval
of the numbers that round to it, and the two are apart by one part in `2 ^ 53` at most, or by half a
step of the smallest numbers (`rounded_ofRatio?`).

`Rounded x v` is what later modules use: it says all three of a floating-point number and the ratio
it was rounded from, and holds of products and quotients as well (`rounded_mul?`, `rounded_div?`).
Nothing there depends on how the exponent is guessed.

Half a step of the smallest numbers would be carried through every estimate. It is bounded once by
`tiny`, which is far below any hundredth and can be added a few times without mattering.
-/

namespace ContributionRegistry.Decimal

/-! ### Powers with whole exponents -/

/-- A power with a whole exponent as the ratio of two that have none below zero. -/
theorem zpow_eq_div {b : ℚ} (hb : b ≠ 0) (e : ℤ) : b ^ e = b ^ e.toNat / b ^ (-e).toNat := by
  conv_lhs => rw [← Int.toNat_sub_toNat_neg e]
  rw [zpow_sub₀ hb, zpow_natCast, zpow_natCast]

/-- Scaling a ratio by a power of two, up or down. -/
theorem scaled_eq (n d : ℕ) (e : ℤ) :
    ((n * Nat.pow 2 (-e).toNat : ℕ) : ℚ) / (d * Nat.pow 2 e.toNat : ℕ) = n / d / 2 ^ e := by
  rw [zpow_eq_div two_ne_zero, Nat.pow_eq, Nat.pow_eq]
  push_cast
  rw [div_div_div_eq]

/-! ### Nearest whole numbers -/

/-- The whole number is nearest to the ratio, and even if another one is equally near. -/
structure Nearest (r : ℕ) (q : ℚ) : Prop where
  /-- The ratio is not more than a half above it. -/
  le_add : q ≤ r + 1 / 2
  /-- The ratio is not more than a half below it. -/
  sub_le : r - 1 / 2 ≤ q
  /-- If another one is equally near, it is the even one. -/
  even_of_tie : q = r + 1 / 2 ∨ q = r - 1 / 2 → r % 2 = 0

/-- A rounded quotient is the nearest whole number, the even one of two. -/
theorem nearest_roundedQuotient (n : ℕ) {d : ℕ} (hd : 0 < d) :
    Nearest (roundedQuotient n d) (n / d : ℚ) := by
  have hd' : (0 : ℚ) < d := Nat.cast_pos.2 hd
  have hsplit : (n / d : ℚ) = (n / d : ℕ) + (n % d : ℕ) / d := by
    have hn : (n : ℚ) = (n / d : ℕ) * d + (n % d : ℕ) := by
      exact_mod_cast (Nat.div_add_mod' n d).symm
    rw [div_eq_iff hd'.ne', add_mul, div_mul_cancel₀ _ hd'.ne']
    exact hn
  have hnext : ((n / d + 1 : ℕ) : ℚ) = (n / d : ℕ) + 1 := Nat.cast_succ _
  have hrest : (0 : ℚ) ≤ (n % d : ℕ) / d := by positivity
  -- the rest decides: below one half, above it, or a tie
  rcases lt_trichotomy (2 * (n % d)) d with hlt | heq | hgt
  · have hhalf : ((n % d : ℕ) / d : ℚ) < 1 / 2 := by
      rw [div_lt_iff₀ hd']
      have : (2 * (n % d : ℕ) : ℚ) < d := by exact_mod_cast hlt
      linarith
    rw [show roundedQuotient n d = n / d by simp [roundedQuotient, hlt], hsplit]
    exact ⟨by linarith, by linarith, by rintro (h | h) <;> exfalso <;> linarith⟩
  · have hhalf : ((n % d : ℕ) / d : ℚ) = 1 / 2 := by
      rw [div_eq_iff hd'.ne']
      have : (2 * (n % d : ℕ) : ℚ) = d := by exact_mod_cast heq
      linarith
    rw [show roundedQuotient n d = n / d + n / d % 2 by simp [roundedQuotient, heq], hsplit]
    rcases Nat.mod_two_eq_zero_or_one (n / d) with hq | hq
    · rw [hq, Nat.add_zero]
      exact ⟨by linarith, by linarith, fun _ ↦ hq⟩
    · rw [hq]
      exact ⟨by linarith, by linarith, fun _ ↦ by omega⟩
  · have hhalf : (1 / 2 : ℚ) < (n % d : ℕ) / d := by
      rw [lt_div_iff₀ hd']
      have : (d : ℚ) < 2 * (n % d : ℕ) := by exact_mod_cast hgt
      linarith
    have hone : ((n % d : ℕ) / d : ℚ) < 1 := by
      rw [div_lt_one hd']
      exact_mod_cast Nat.mod_lt n hd
    rw [show roundedQuotient n d = n / d + 1 by simp [roundedQuotient, hgt, hgt.not_gt], hsplit]
    exact ⟨by linarith, by linarith, by rintro (h | h) <;> exfalso <;> linarith⟩

theorem roundedQuotient_one (n : ℕ) : roundedQuotient n 1 = n := by
  simp [roundedQuotient, Nat.mod_one]

namespace Binary64

/-! ### Floating-point numbers as ratios -/

/-- The number that a floating-point number is. -/
def value (x : Binary64) : ℚ := x.mantissa * 2 ^ x.exponent

theorem value_nonneg (x : Binary64) : 0 ≤ x.value := by
  unfold value
  positivity

theorem denominator_ne_zero (x : Binary64) : x.denominator ≠ 0 :=
  (Nat.pow_pos (by decide)).ne'

theorem numerator_div_denominator (x : Binary64) :
    (x.numerator : ℚ) / x.denominator = x.value := by
  rw [numerator, denominator, value, zpow_eq_div two_ne_zero, Nat.pow_eq, Nat.pow_eq]
  push_cast
  ring

/-- A floating-point number as the format keeps it: with 53 bits, or with the least exponent. -/
structure Regular (x : Binary64) : Prop where
  /-- The mantissa has 53 bits at most. -/
  mantissa_lt : x.mantissa < 2 ^ 53
  /-- The exponent is not below the least one. -/
  least_le : leastExponent ≤ x.exponent
  /-- Above the least exponent the mantissa has all its 53 bits. -/
  normal : x.exponent ≠ leastExponent → 2 ^ 52 ≤ x.mantissa

/-! ### The exponent -/

/-- An exponent out of the numbers of bits is right or one too small. -/
theorem guess_bounds {n d : ℕ} (hn : n ≠ 0) (hd : d ≠ 0) {guess : ℤ}
    (hguess : guess = (Nat.log2 n : ℤ) - Nat.log2 d - 53) :
    2 ^ 52 ≤ (n / d : ℚ) / 2 ^ guess ∧ (n / d : ℚ) / 2 ^ guess < 2 ^ 54 := by
  have hd' : (0 : ℚ) < d := by exact_mod_cast Nat.pos_of_ne_zero hd
  constructor
  · have hle : (2 : ℚ) ^ (Nat.log2 n : ℤ) ≤ n := by exact_mod_cast Nat.log2_self_le hn
    have hlt : (d : ℚ) < 2 ^ ((Nat.log2 d : ℤ) + 1) := by
      exact_mod_cast (Nat.lt_log2_self : d < 2 ^ (d.log2 + 1))
    rw [le_div_iff₀ (by positivity), le_div_iff₀ hd']
    calc (2 : ℚ) ^ 52 * 2 ^ guess * d ≤ 2 ^ 52 * 2 ^ guess * 2 ^ ((Nat.log2 d : ℤ) + 1) := by gcongr
      _ = 2 ^ (Nat.log2 n : ℤ) := by
          rw [← zpow_natCast, ← zpow_add₀ two_ne_zero, ← zpow_add₀ two_ne_zero, hguess]
          congr 1
          push_cast
          ring
      _ ≤ n := hle
  · have hlt : (n : ℚ) < 2 ^ ((Nat.log2 n : ℤ) + 1) := by
      exact_mod_cast (Nat.lt_log2_self : n < 2 ^ (n.log2 + 1))
    have hle : (2 : ℚ) ^ (Nat.log2 d : ℤ) ≤ d := by exact_mod_cast Nat.log2_self_le hd
    rw [div_lt_iff₀ (by positivity), div_lt_iff₀ hd']
    calc (n : ℚ) < 2 ^ ((Nat.log2 n : ℤ) + 1) := hlt
      _ = 2 ^ 54 * 2 ^ guess * 2 ^ (Nat.log2 d : ℤ) := by
          rw [← zpow_natCast, ← zpow_add₀ two_ne_zero, ← zpow_add₀ two_ne_zero, hguess]
          congr 1
          push_cast
          ring
      _ ≤ 2 ^ 54 * 2 ^ guess * d := by gcongr

/-- **The exponent leaves 53 bits for the mantissa**, or fewer if it is the least one. -/
theorem exponentFor_spec {n d : ℕ} (hn : n ≠ 0) (hd : d ≠ 0) :
    (n / d : ℚ) / 2 ^ exponentFor n d < 2 ^ 53 ∧ leastExponent ≤ exponentFor n d ∧
      (exponentFor n d ≠ leastExponent → 2 ^ 52 ≤ (n / d : ℚ) / 2 ^ exponentFor n d) := by
  set guess : ℤ := (Nat.log2 n : ℤ) - Nat.log2 d - 53 with hguess
  obtain ⟨hlow, hhigh⟩ := guess_bounds hn hd hguess
  have hscaled : (n * Nat.pow 2 (-guess).toNat) / (d * Nat.pow 2 guess.toNat) < Nat.pow 2 53 ↔
      (n / d : ℚ) / 2 ^ guess < 2 ^ 53 := by
    have hpos : 0 < d * Nat.pow 2 guess.toNat :=
      Nat.mul_pos (Nat.pos_of_ne_zero hd) (Nat.pow_pos (by decide))
    rw [← scaled_eq, Nat.div_lt_iff_lt_mul hpos, div_lt_iff₀ (by exact_mod_cast hpos)]
    norm_cast
  -- the guess from the lengths of the two numbers is right or one too small
  obtain ⟨e, he, hlt, hle⟩ : ∃ e, exponentFor n d = max leastExponent e ∧
      (n / d : ℚ) / 2 ^ e < 2 ^ 53 ∧ 2 ^ 52 ≤ (n / d : ℚ) / 2 ^ e := by
    refine ⟨_, rfl, ?_⟩
    split
    · next h => exact ⟨hscaled.1 h, hlow⟩
    · next h =>
      have hge : (2 : ℚ) ^ 53 ≤ (n / d : ℚ) / 2 ^ guess := not_lt.1 fun h' ↦ h (hscaled.2 h')
      have hhalf : (n / d : ℚ) / 2 ^ (guess + 1) = (n / d : ℚ) / 2 ^ guess / 2 := by
        rw [zpow_add_one₀ two_ne_zero, ← div_div]
      rw [hhalf]
      exact ⟨by linarith, by linarith⟩
  rw [he]
  rcases le_total leastExponent e with h | h
  · rw [max_eq_right h]
    exact ⟨hlt, h, fun _ ↦ hle⟩
  · rw [max_eq_left h]
    refine ⟨lt_of_le_of_lt ?_ hlt, le_rfl, fun hne ↦ absurd rfl hne⟩
    gcongr
    exact one_le_two

end Binary64

/-! ### Intervals of rounding -/

/-- Whether a number lies in an interval. -/
def RoundingInterval.Covers (i : RoundingInterval) (v : ℚ) : Prop :=
  if i.closed then i.lower * 2 ^ i.exponent ≤ v ∧ v ≤ i.upper * 2 ^ i.exponent
  else i.lower * 2 ^ i.exponent < v ∧ v < i.upper * 2 ^ i.exponent

/-- What lies in an interval is between its ends. -/
theorem RoundingInterval.Covers.bounds {i : RoundingInterval} {v : ℚ} (h : i.Covers v) :
    i.lower * 2 ^ i.exponent ≤ v ∧ v ≤ i.upper * 2 ^ i.exponent := by
  unfold Covers at h
  split at h
  · exact h
  · exact ⟨h.1.le, h.2.le⟩

namespace Binary64

/-- A quarter of a step has an exponent that is smaller by two. -/
theorem quarter (e : ℤ) : (2 : ℚ) ^ (e - 2) = 2 ^ e / 4 := by
  rw [zpow_sub₀ two_ne_zero]
  norm_num

/-- The ends of the interval are half a step away, or nearer below. -/
theorem ends_interval (x : Binary64) :
    x.value - 2 ^ x.exponent / 2 ≤ x.interval.lower * 2 ^ x.interval.exponent ∧
      x.interval.upper * 2 ^ x.interval.exponent = x.value + 2 ^ x.exponent / 2 := by
  have hpos : (0 : ℚ) < 2 ^ x.exponent := by positivity
  have hlower : 4 * (x.mantissa : ℚ) - 2 ≤ (x.interval.lower : ℚ) := by
    have : 4 * x.mantissa ≤ x.interval.lower + 2 := by
      simp only [interval]
      split <;> omega
    have : (4 * x.mantissa : ℚ) ≤ x.interval.lower + 2 := by exact_mod_cast this
    linarith
  have hexponent : (2 : ℚ) ^ x.interval.exponent = 2 ^ x.exponent / 4 := quarter x.exponent
  rw [hexponent, value]
  refine ⟨by nlinarith, ?_⟩
  simp only [interval]
  push_cast
  ring

/-- Half a step of the smallest numbers. -/
def least : ℚ := 2 ^ (-1075 : ℤ)

/-- Half a step of the smallest numbers is something. -/
theorem least_pos : 0 < least := by
  unfold least
  positivity

/-- A step of the smallest numbers is twice the half of one. -/
theorem two_pow_leastExponent : (2 : ℚ) ^ leastExponent = 2 * least := by
  rw [least, leastExponent, show (-1074 : ℤ) = 1 + -1075 by norm_num, zpow_add₀ two_ne_zero,
    zpow_one]

/-- Numbers below this one are too small to count. -/
def tiny : ℚ := 1 / 10 ^ 200

theorem tiny_pos : 0 < tiny := by
  unfold tiny
  positivity

/-- Half a step of the smallest numbers is much too small to count. -/
theorem least_le_tiny : least ≤ tiny / 10 ^ 20 := by
  have hpow : (10 : ℕ) ^ 220 ≤ 2 ^ 1075 := by decide +kernel
  rw [least, tiny, div_div, ← pow_add, show (-1075 : ℤ) = -((1075 : ℕ) : ℤ) from rfl, zpow_neg,
    zpow_natCast, ← one_div]
  exact one_div_le_one_div_of_le (by positivity) (by exact_mod_cast hpow)

/-- What is too small to count is far below a hundredth. -/
theorem tiny_le : tiny ≤ 1 / 10 ^ 20 := by
  rw [tiny]
  exact one_div_le_one_div_of_le (by positivity) (by gcongr <;> norm_num)

/-- Half a step of a regular number is one part of it in `2 ^ 53`, or half a step of the smallest
numbers. -/
theorem Regular.half_step_le {x : Binary64} (h : x.Regular) :
    (2 : ℚ) ^ x.exponent / 2 ≤ x.value / 2 ^ 53 + least := by
  have hpos : (0 : ℚ) < 2 ^ x.exponent := by positivity
  by_cases he : x.exponent = leastExponent
  · have hvalue := x.value_nonneg
    rw [he, two_pow_leastExponent]
    have : 0 ≤ x.value / 2 ^ 53 := by positivity
    linarith
  · have hmantissa : (2 : ℚ) ^ 52 ≤ x.mantissa := by exact_mod_cast h.normal he
    have hleast := least_pos
    rw [value]
    have : (2 : ℚ) ^ 52 * 2 ^ x.exponent ≤ x.mantissa * 2 ^ x.exponent := by gcongr
    norm_num at this ⊢
    linarith

/-- What rounds to a regular number is near it. -/
theorem Regular.abs_sub_le {x : Binary64} (h : x.Regular) {v : ℚ} (hv : x.interval.Covers v) :
    |v - x.value| ≤ x.value / 2 ^ 53 + least := by
  obtain ⟨hlower, hupper⟩ := x.ends_interval
  obtain ⟨hlow, hhigh⟩ := hv.bounds
  have hstep := h.half_step_le
  rw [abs_le]
  constructor <;> linarith

/-! ### Rounded ratios -/

/-- A ratio was rounded to a floating-point number. -/
structure Rounded (x : Binary64) (v : ℚ) : Prop extends x.Regular where
  /-- The ratio is one of the numbers that round to it. -/
  covers : x.interval.Covers v
  /-- The two are near to each other. -/
  error_le : |x.value - v| ≤ v / 2 ^ 53 + least

/-- A mantissa below its bound makes a number that the ratio rounds to. -/
theorem covers_of_nearest {m : ℕ} {e : ℤ} {v : ℚ} (hv : 0 ≤ v) (hm : Nearest m (v / 2 ^ e))
    (hnormal : e ≠ leastExponent → 2 ^ 52 ≤ v / 2 ^ e) : (⟨m, e⟩ : Binary64).interval.Covers v := by
  have hpos : (0 : ℚ) < 2 ^ e := by positivity
  have hquarter := quarter e
  have hv' : v = v / 2 ^ e * 2 ^ e := (div_mul_cancel₀ v hpos.ne').symm
  set q := v / 2 ^ e with hq
  have hq0 : 0 ≤ q := by positivity
  obtain ⟨hle, hge, htie⟩ := hm
  have hupper : (((⟨m, e⟩ : Binary64).interval.upper : ℕ) : ℚ) = 4 * m + 2 := by
    simp only [interval]
    push_cast
    ring
  -- an odd mantissa is no tie, so its ends are not reached; and it is not the least normal one
  have hlower : (((⟨m, e⟩ : Binary64).interval.lower : ℕ) : ℚ) ≤ 4 * q ∧
      (m % 2 ≠ 0 → (((⟨m, e⟩ : Binary64).interval.lower : ℕ) : ℚ) < 4 * q) := by
    simp only [interval]
    split
    · next h =>
      have hm52 : (m : ℚ) = 2 ^ 52 := by rw [h.1]; norm_num
      have hge52 := hnormal h.2
      refine ⟨?_, fun hodd ↦ absurd ?_ hodd⟩
      · rw [Nat.cast_sub (by rw [h.1]; decide)]
        push_cast
        linarith
      · rw [h.1]
    · rcases Nat.eq_zero_or_pos m with rfl | hmpos
      · exact ⟨by simpa using hq0, fun hodd ↦ absurd rfl hodd⟩
      · rw [Nat.cast_sub (by omega)]
        push_cast
        refine ⟨by linarith, fun hodd ↦ lt_of_le_of_ne (by linarith) fun heq ↦ hodd (htie ?_)⟩
        exact .inr (by linarith)
  have hfour : ∀ n : ℕ, (n : ℚ) * 2 ^ (e - 2) = n / 4 * 2 ^ e := fun n ↦ by rw [hquarter]; ring
  unfold RoundingInterval.Covers
  rw [show (⟨m, e⟩ : Binary64).interval.exponent = e - 2 from rfl, hfour, hfour, hupper, hv']
  split
  · exact ⟨by gcongr; linarith [hlower.1], by gcongr; linarith⟩
  · next hclosed =>
    have hodd : m % 2 ≠ 0 := by simpa [interval] using hclosed
    have hlt : q < m + 1 / 2 := lt_of_le_of_ne hle fun heq ↦ hodd (htie (.inl heq))
    exact ⟨by gcongr; linarith [hlower.2 hodd], by gcongr; linarith⟩

/-- A mantissa at its bound is halved, and the exponent raised. -/
theorem covers_of_carry {m : ℕ} {e : ℤ} {v : ℚ} (hm52 : m = Nat.pow 2 52)
    (hle : leastExponent ≤ e) (hm : Nearest (2 * m) (v / 2 ^ e)) (hlt : v / 2 ^ e < 2 * m) :
    (⟨m, e + 1⟩ : Binary64).interval.Covers v := by
  have hpos : (0 : ℚ) < 2 ^ e := by positivity
  have hv : v = v / 2 ^ e * 2 ^ e := (div_mul_cancel₀ v hpos.ne').symm
  have hge := hm.sub_le
  have hodd : m % 2 = 0 := by rw [hm52]
  have hone : 1 ≤ 4 * m := by rw [hm52]; decide
  set q := v / 2 ^ e with hq
  have hraised : e + 1 ≠ leastExponent := by omega
  have hlower : (((⟨m, e + 1⟩ : Binary64).interval.lower : ℕ) : ℚ) = 4 * m - 1 := by
    simp only [interval]
    rw [if_pos ⟨hm52, hraised⟩, Nat.cast_sub hone]
    push_cast
    ring
  have hupper : (((⟨m, e + 1⟩ : Binary64).interval.upper : ℕ) : ℚ) = 4 * m + 2 := by
    simp only [interval]
    push_cast
    ring
  have hclosed : (⟨m, e + 1⟩ : Binary64).interval.closed = true := by
    simp only [interval, hodd, decide_true]
  have hexponent : (2 : ℚ) ^ (e + 1 - 2) = 2 ^ e / 2 := by
    rw [quarter, zpow_add_one₀ two_ne_zero]
    ring
  rw [RoundingInterval.Covers, if_pos hclosed, hlower, hupper,
    show (⟨m, e + 1⟩ : Binary64).interval.exponent = e + 1 - 2 from rfl, hexponent, hv]
  push_cast at hge
  -- both bounds are linear in `q` once `2 ^ e` is taken out
  constructor <;> nlinarith

/-- A mantissa nearest to the scaled number is off by half a step at most. -/
theorem error_of_nearest {m : ℕ} {e : ℤ} {v : ℚ} (hv : 0 ≤ v)
    (hnormal : e ≠ leastExponent → 2 ^ 52 ≤ v / 2 ^ e) (hm : Nearest m (v / 2 ^ e)) :
    |m * 2 ^ e - v| ≤ v / 2 ^ 53 + least := by
  have hpos : (0 : ℚ) < 2 ^ e := by positivity
  have hstep : (2 : ℚ) ^ e / 2 ≤ v / 2 ^ 53 + least := by
    by_cases he : e = leastExponent
    · rw [he, two_pow_leastExponent]
      have : 0 ≤ v / 2 ^ 53 := by positivity
      linarith
    · have hge := (le_div_iff₀ hpos).1 (hnormal he)
      have hleast := least_pos
      norm_num at hge ⊢
      linarith
  obtain ⟨hle, hge, -⟩ := hm
  have hnear : |m * 2 ^ e - v| ≤ 2 ^ e / 2 := by
    rw [abs_le, show v = v / 2 ^ e * 2 ^ e from (div_mul_cancel₀ v hpos.ne').symm]
    constructor <;> nlinarith
  exact hnear.trans hstep

/-- It makes that number rounded. -/
theorem rounded_of_nearest {m : ℕ} {e : ℤ} {v : ℚ} (hv : 0 ≤ v) (hlt : v / 2 ^ e < 2 ^ 53)
    (hle : leastExponent ≤ e) (hnormal : e ≠ leastExponent → 2 ^ 52 ≤ v / 2 ^ e)
    (hm : Nearest m (v / 2 ^ e)) :
    Rounded (if m < Nat.pow 2 53 then ⟨m, e⟩ else ⟨m / 2, e + 1⟩) v := by
  have herror := error_of_nearest hv hnormal hm
  have hm53 : m ≤ 2 ^ 53 := by
    have : (m : ℚ) < (2 ^ 53 : ℕ) + 1 := by
      have := hm.sub_le
      push_cast
      linarith
    exact Nat.lt_succ_iff.1 (by exact_mod_cast this)
  split
  · next hsmall =>
    refine ⟨⟨hsmall, hle, fun he ↦ ?_⟩, covers_of_nearest hv hm hnormal, herror⟩
    have hge := hnormal he
    have : ((2 ^ 52 : ℕ) : ℚ) < m + 1 := by
      have := hm.le_add
      push_cast
      linarith
    exact Nat.lt_succ_iff.1 (by exact_mod_cast this)
  -- rounding up may carry into one more bit, which the exponent takes over
  · next hlarge =>
    obtain rfl : m = 2 * Nat.pow 2 52 := Nat.le_antisymm hm53 (not_lt.1 hlarge)
    have hvalue : (⟨Nat.pow 2 52, e + 1⟩ : Binary64).value = (2 * Nat.pow 2 52 : ℕ) * 2 ^ e := by
      rw [value, zpow_add_one₀ two_ne_zero]
      push_cast
      ring
    rw [Nat.mul_div_cancel_left _ Nat.two_pos]
    have hbits : Nat.pow 2 52 < 2 ^ 53 ∧ 2 ^ 52 ≤ Nat.pow 2 52 := by decide
    refine ⟨⟨hbits.1, by simp only; omega, fun _ ↦ hbits.2⟩, ?_, by rwa [hvalue]⟩
    refine covers_of_carry rfl hle hm (hlt.trans_eq ?_)
    norm_num

/-- **What rounding a ratio gives.** -/
theorem rounded_ofRatio? {n d : ℕ} {x : Binary64} (hd : d ≠ 0) (h : ofRatio? n d = some x) :
    Rounded x (n / d) := by
  unfold ofRatio? at h
  split at h
  · next hn =>
    cases h
    subst hn
    have hzero : zero.value = 0 := by simp [value, zero]
    refine ⟨⟨by decide, le_rfl, fun hne ↦ absurd rfl hne⟩, ?_, ?_⟩
    · rw [RoundingInterval.Covers, if_pos (by decide)]
      simp only [interval, zero]
      norm_num
      positivity
    · simpa [hzero] using least_pos.le
  · next hn =>
    obtain ⟨hlt, hle, hnormal⟩ := exponentFor_spec hn hd
    have hpos : 0 < d * Nat.pow 2 (exponentFor n d).toNat :=
      Nat.mul_pos (Nat.pos_of_ne_zero hd) (Nat.pow_pos (by decide))
    have hnearest := nearest_roundedQuotient (n * Nat.pow 2 (-exponentFor n d).toNat) hpos
    rw [scaled_eq] at hnearest
    have hrounded := rounded_of_nearest (by positivity) hlt hle hnormal hnearest
    simp only [Option.ite_none_right_eq_some, Option.some.injEq] at h
    rwa [h.2] at hrounded

/-- Ratios below `2 ^ 53` have no bit that the point is right of. -/
theorem exponentFor_nonpos {n d : ℕ} (hn : n ≠ 0) (hd : d ≠ 0) (h : (n / d : ℚ) < 2 ^ 53) :
    exponentFor n d ≤ 0 := by
  obtain ⟨-, -, hnormal⟩ := exponentFor_spec hn hd
  by_contra hpos
  have hpow : (2 : ℚ) ≤ 2 ^ exponentFor n d := by
    calc (2 : ℚ) = 2 ^ (1 : ℤ) := (zpow_one 2).symm
      _ ≤ 2 ^ exponentFor n d := zpow_le_zpow_right₀ one_le_two (by omega)
  have hge := hnormal fun he ↦ hpos (he ▸ by decide)
  rw [le_div_iff₀ (by positivity)] at hge
  linarith

/-- A ratio below `2 ^ 53` is not beyond the largest number. -/
theorem exists_ofRatio? {n d : ℕ} (hd : d ≠ 0) (h : (n / d : ℚ) < 2 ^ 53) :
    ∃ x, ofRatio? n d = some x := by
  unfold ofRatio?
  split
  · exact ⟨_, rfl⟩
  · next hn =>
    have he := exponentFor_nonpos hn hd h
    refine ⟨_, if_pos ?_⟩
    rw [largestExponent]
    split <;> simp only <;> omega

/-- Whole numbers of 53 bits are kept. -/
theorem ofNat?_of_lt {n : ℕ} (h : n < 2 ^ 53) : ∃ x, ofNat? n = some x ∧ x.value = n := by
  have hratio : ((n : ℕ) / (1 : ℕ) : ℚ) < 2 ^ 53 := by
    rw [Nat.cast_one, div_one]
    exact_mod_cast h
  obtain ⟨x, hx⟩ := exists_ofRatio? one_ne_zero hratio
  refine ⟨x, hx, ?_⟩
  unfold ofRatio? at hx
  split at hx
  · next hn =>
    cases hx
    simp [value, zero, hn]
  · next hn =>
    have he := exponentFor_nonpos hn one_ne_zero hratio
    obtain ⟨hlt, -, -⟩ := exponentFor_spec hn one_ne_zero
    set e := exponentFor n 1
    have hscaled : ((n * Nat.pow 2 (-e).toNat : ℕ) : ℚ) = n / 2 ^ e := by
      have := scaled_eq n 1 e
      rw [Int.toNat_of_nonpos he] at this
      simpa using this
    have hmantissa : roundedQuotient (n * Nat.pow 2 (-e).toNat) (1 * Nat.pow 2 e.toNat) =
        n * Nat.pow 2 (-e).toNat := by
      rw [Int.toNat_of_nonpos he]
      exact roundedQuotient_one _
    have hsmall : n * Nat.pow 2 (-e).toNat < Nat.pow 2 53 := by
      rw [Nat.cast_one, div_one, ← hscaled] at hlt
      exact_mod_cast hlt
    simp only [hmantissa, if_pos hsmall, Option.ite_none_right_eq_some, Option.some.injEq] at hx
    rw [← hx.2, value, hscaled, div_mul_cancel₀ _ (by positivity)]

/-! ### Products and quotients -/

section

variable {x y z : Binary64}

/-- A product is rounded. -/
theorem rounded_mul? (h : x.mul? y = some z) : Rounded z (x.value * y.value) := by
  have hrounded := rounded_ofRatio?
    (Nat.mul_ne_zero x.denominator_ne_zero y.denominator_ne_zero) h
  rwa [Nat.cast_mul, Nat.cast_mul, ← div_mul_div_comm, numerator_div_denominator,
    numerator_div_denominator] at hrounded

/-- The quotient by a number above zero, as a ratio. -/
theorem ratio_div (x y : Binary64) :
    ((x.numerator * y.denominator : ℕ) : ℚ) / (x.denominator * y.numerator : ℕ) =
      x.value / y.value := by
  rw [Nat.cast_mul, Nat.cast_mul, ← numerator_div_denominator, ← numerator_div_denominator,
    div_div_div_eq]

theorem numerator_ne_zero (hy : 0 < y.value) : y.numerator ≠ 0 := by
  intro hzero
  rw [← numerator_div_denominator, hzero, Nat.cast_zero, zero_div] at hy
  exact lt_irrefl 0 hy

/-- A quotient is rounded. -/
theorem rounded_div? (hy : 0 < y.value) (h : x.div? y = some z) :
    Rounded z (x.value / y.value) := by
  have hrounded := rounded_ofRatio?
    (Nat.mul_ne_zero x.denominator_ne_zero (numerator_ne_zero hy)) h
  rwa [ratio_div] at hrounded

/-- A quotient that is not too large exists. -/
theorem exists_div? (hy : 0 < y.value) (h : x.value / y.value < 2 ^ 53) :
    ∃ z, x.div? y = some z :=
  exists_ofRatio? (Nat.mul_ne_zero x.denominator_ne_zero (numerator_ne_zero hy))
    (by rwa [ratio_div])

end

end Binary64

end ContributionRegistry.Decimal
