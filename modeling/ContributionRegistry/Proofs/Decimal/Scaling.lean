import ContributionRegistry.Proofs.Decimal.Rounding

/-!
# Scaling floating-point numbers by powers of ten

A power of ten is rounded before it is used, and what comes of it is rounded again; both together
move the number by less than one part in `4 * 10 ^ 15` (`near_scaleUp`, `near_div_power`). What is
divided more than once is too small to count before and after (`tiny_of_scaleDown`).

So a number that is scaled at all is near to the scaled one, whatever the exponent (`near_scale?`):
one statement for both directions, with `tiny` added to the error, that can be used without looking
at how often it was divided.
-/

namespace ContributionRegistry.Decimal.Binary64

/-- Rounding a whole number moves it by less than one part in `9 * 10 ^ 15`. -/
theorem near_ofNat? {n : ℕ} {x : Binary64} (h : ofNat? n = some x) :
    x.Regular ∧ |x.value - n| ≤ n / (9 * 10 ^ 15) := by
  have hrounded := rounded_ofRatio? one_ne_zero h
  rw [Nat.cast_one, div_one] at hrounded
  refine ⟨hrounded.toRegular, ?_⟩
  rcases Nat.eq_zero_or_pos n with rfl | hn
  · have hx : x = zero := by simpa [ofNat?, ofRatio?, eq_comm] using h
    simp [hx, value, zero]
  · have hone : (1 : ℚ) ≤ n := by exact_mod_cast hn
    have herror := hrounded.error_le
    have hleast := least_le_tiny
    have htiny := tiny_le
    refine herror.trans ?_
    norm_num at hleast htiny ⊢
    linarith

/-- A power of ten is rounded to a number near to it. -/
theorem near_powerOfTen? {k : ℕ} {p : Binary64} (h : powerOfTen? k = some p) :
    |p.value - 10 ^ k| ≤ 10 ^ k / (9 * 10 ^ 15) := by
  have hnear := (near_ofNat? (n := Nat.pow 10 k) h).2
  rw [Nat.pow_eq] at hnear
  push_cast at hnear
  exact hnear

section

variable {x y : Binary64} {k : ℕ}

/-- Multiplying by a power of ten moves the product by little. -/
theorem near_scaleUp (hx : x.Regular) (h : scaleUp k x = some y) :
    y.Regular ∧ |y.value - x.value * 10 ^ k| ≤ x.value * 10 ^ k / (4 * 10 ^ 15) + tiny := by
  have hvalue := x.value_nonneg
  unfold scaleUp at h
  split at h
  · obtain ⟨p, hp, hy⟩ := Option.bind_eq_some_iff.1 h
    have hnear := abs_le.1 (near_powerOfTen? hp)
    have hrounded := rounded_mul? hy
    have herror := abs_le.1 hrounded.error_le
    have hleast := least_le_tiny
    refine ⟨hrounded.toRegular, ?_⟩
    have hproduct : x.value * p.value ≤ x.value * 10 ^ k + x.value * 10 ^ k / (9 * 10 ^ 15) := by
      nlinarith
    have hproduct' : x.value * 10 ^ k - x.value * 10 ^ k / (9 * 10 ^ 15) ≤ x.value * p.value := by
      nlinarith
    have hscaled : 0 ≤ x.value * 10 ^ k := by positivity
    have htiny := tiny_pos
    rw [abs_le]
    norm_num at *
    constructor <;> linarith
  · split at h
    · next hm =>
      cases h
      have hzero : x.value = 0 := by simp [value, hm]
      refine ⟨hx, ?_⟩
      rw [hzero, zero_mul, sub_self, abs_zero, zero_div, zero_add]
      exact tiny_pos.le
    · cases h

/-- A number divided by a rounded power of ten, and rounded. -/
theorem near_div_power {p : Binary64} (hp : powerOfTen? k = some p) (hy : x.div? p = some y) :
    y.Regular ∧ |y.value - x.value / 10 ^ k| ≤ x.value / 10 ^ k / (4 * 10 ^ 15) + least := by
  have hvalue := x.value_nonneg
  have hpow : (0 : ℚ) < 10 ^ k := by positivity
  have hnear := abs_le.1 (near_powerOfTen? hp)
  have hppos : 0 < p.value := by
    have : (10 : ℚ) ^ k / (9 * 10 ^ 15) < 10 ^ k := div_lt_self hpow (by norm_num)
    linarith
  have hrounded := rounded_div? hppos hy
  have herror := abs_le.1 hrounded.error_le
  refine ⟨hrounded.toRegular, ?_⟩
  set q := x.value / p.value with hq
  set r := x.value / 10 ^ k with hr
  have hr0 : 0 ≤ r := by positivity
  have hqr : q * p.value = r * 10 ^ k := by
    rw [hq, hr, div_mul_cancel₀ _ hppos.ne', div_mul_cancel₀ _ hpow.ne']
  have hq0 : 0 ≤ q := by positivity
  -- the power is off by a part in `9 * 10 ^ 15`, and so is the quotient; rounding adds its own part
  have hhigh : q * (1 - 1 / (9 * 10 ^ 15)) ≤ r := by
    refine le_of_mul_le_mul_right ?_ hpow
    nlinarith
  have hlow : r ≤ q * (1 + 1 / (9 * 10 ^ 15)) := by
    refine le_of_mul_le_mul_right ?_ hpow
    nlinarith
  rw [abs_le]
  norm_num at *
  constructor <;> linarith

/-- Whatever is divided by a power of ten and has been tiny stays so. -/
theorem tiny_of_div_power {p : Binary64} (hk : 0 < k) (hp : powerOfTen? k = some p)
    (hy : x.div? p = some y) (hx : x.value ≤ tiny / 2) : y.value ≤ tiny / 2 := by
  have hvalue := x.value_nonneg
  have hpow : (10 : ℚ) ≤ 10 ^ k := by
    calc (10 : ℚ) = 10 ^ 1 := (pow_one _).symm
      _ ≤ 10 ^ k := pow_le_pow_right₀ (by norm_num) hk
  have hdiv : x.value / 10 ^ k ≤ x.value / 10 := by gcongr
  have hnear := abs_le.1 (near_div_power hp hy).2
  have hleast := least_le_tiny
  have htiny := tiny_pos
  norm_num at *
  linarith

/-- What was too small to count stays so when it is divided again. -/
theorem tiny_of_scaleDown {last : ℕ} (hlast : 0 < last) (times : ℕ) (hx : x.Regular)
    (hsmall : x.value ≤ tiny / 2) (h : scaleDown last times x = some y) :
    y.Regular ∧ y.value ≤ tiny / 2 := by
  induction times generalizing x with
  | zero =>
    obtain ⟨p, hp, hy⟩ := Option.bind_eq_some_iff.1 h
    exact ⟨(near_div_power hp hy).1, tiny_of_div_power hlast hp hy hsmall⟩
  | succ times ih =>
    rw [scaleDown] at h
    split at h
    · cases h
      exact ⟨hx, hsmall⟩
    · obtain ⟨p, hp, h⟩ := Option.bind_eq_some_iff.1 h
      obtain ⟨z, hz, h⟩ := Option.bind_eq_some_iff.1 h
      exact ih (near_div_power hp hz).1 (tiny_of_div_power (by decide) hp hz hsmall) h

/-- What digits make is tiny once it is divided by a large power of ten. -/
theorem tiny_of_large_power (hlt : x.value ≤ 10 ^ 20) (hk : 240 ≤ k) :
    x.value / 10 ^ k ≤ tiny / 10 ^ 20 := by
  rw [tiny, div_div, ← pow_add, div_le_div_iff₀ (by positivity) (by positivity), one_mul]
  calc x.value * 10 ^ (200 + 20) ≤ 10 ^ 20 * 10 ^ (200 + 20) := by gcongr
    _ = 10 ^ 240 := by rw [← pow_add]
    _ ≤ 10 ^ k := pow_le_pow_right₀ (by norm_num) hk

/-- Where there is more than one division, the first one already makes it tiny. -/
theorem tiny_of_scaleDown_succ {last times : ℕ} (hlast : 0 < last) (hx : x.Regular)
    (hlt : x.value ≤ 10 ^ 20) (h : scaleDown last (times + 1) x = some y) :
    y.Regular ∧ y.value ≤ tiny / 2 := by
  have htiny := tiny_pos
  rw [scaleDown] at h
  split at h
  · next hm =>
    cases h
    have hzero : x.value = 0 := by simp [value, hm]
    exact ⟨hx, by rw [hzero]; positivity⟩
  · obtain ⟨p, hp, h⟩ := Option.bind_eq_some_iff.1 h
    obtain ⟨z, hz, h⟩ := Option.bind_eq_some_iff.1 h
    obtain ⟨hregular, hnear⟩ := near_div_power hp hz
    refine tiny_of_scaleDown hlast times hregular ?_ h
    have hfirst : x.value / 10 ^ largestPower ≤ tiny / 10 ^ 20 :=
      tiny_of_large_power hlt (by decide)
    have hnear := abs_le.1 hnear
    have hleast := least_le_tiny
    linarith

/-- **What scaling by a power of ten gives** for the numbers that digits make. -/
theorem near_scale? {k : ℤ} (hx : x.Regular) (hlt : x.value ≤ 10 ^ 20)
    (h : x.scale? k = some y) :
    y.Regular ∧ |y.value - x.value * 10 ^ k| ≤ x.value * 10 ^ k / (4 * 10 ^ 15) + tiny := by
  have hvalue := x.value_nonneg
  unfold scale? at h
  split at h
  · next hk =>
    obtain ⟨k, rfl⟩ := Int.eq_ofNat_of_zero_le hk
    rw [Int.toNat_natCast] at h
    rw [zpow_natCast]
    exact near_scaleUp hx h
  · next hk =>
    obtain ⟨n, rfl⟩ : ∃ n : ℕ, k = -(n : ℤ) := ⟨(-k).toNat, by omega⟩
    simp only [neg_neg, Int.toNat_natCast] at h
    rw [zpow_neg, zpow_natCast, ← div_eq_mul_inv]
    -- one division is enough for a small power; larger ones leave next to nothing, on both sides
    rcases Nat.eq_zero_or_pos ((n - 1) / largestPower) with htimes | htimes
    · rw [htimes, Nat.mul_zero, Nat.sub_zero] at h
      obtain ⟨p, hp, hy⟩ := Option.bind_eq_some_iff.1 h
      obtain ⟨hregular, hnear⟩ := near_div_power hp hy
      refine ⟨hregular, hnear.trans ?_⟩
      have hleast := least_le_tiny
      have htiny := tiny_pos
      linarith
    · have hlast : 0 < n - largestPower * ((n - 1) / largestPower) := by
        have := Nat.mul_div_le (n - 1) largestPower
        have : n ≠ 0 := by rintro rfl; exact absurd htimes (by decide)
        omega
      have hlarge : 240 ≤ n := by
        have : largestPower * 1 ≤ largestPower * ((n - 1) / largestPower) :=
          Nat.mul_le_mul_left _ htimes
        have := Nat.mul_div_le (n - 1) largestPower
        rw [largestPower] at *
        omega
      have hsmall := tiny_of_large_power hlt hlarge
      obtain ⟨times, htimes'⟩ := Nat.exists_eq_add_of_lt htimes
      rw [htimes', Nat.zero_add] at h hlast
      have hy := tiny_of_scaleDown_succ hlast hx hlt h
      refine ⟨hy.1, ?_⟩
      have htiny := tiny_pos
      have hynonneg := y.value_nonneg
      have hscaled : 0 ≤ x.value / 10 ^ n := by positivity
      rw [abs_le]
      constructor <;> linarith [hy.2]

end

end ContributionRegistry.Decimal.Binary64
