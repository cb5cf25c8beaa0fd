import ContributionRegistry.Proofs.Decimal.Rounding
import Mathlib.Data.Nat.Cast.Order.Field

/-!
# Shortest decimals round back

The shortest decimal of a floating-point number rounds to that number (`covers_shortest`): on the
last grid one of the two neighbours is nearer than the ends of the interval
(`exists_onGrid?_finest`). And it is any decimal that rounds to the number and lies on a grid which
is wider than the interval (`shortest_eq_of_covers`): of two numbers in the interval at most one
lies on such a grid, and coarser grids are parts of it.

The second statement is the one that amounts need: a decimal of fifteen digits that a literal was
rounded from is found again (`Rounded.shortest_eq`), so nothing is lost of it.

The definitions compare whole numbers on a common scale. That is brought back to rational numbers
once (`ofQuarters_eq`, `ofDecimal_eq`), and the argument about grids is made there. The magnitude,
which says where the grids begin, is bounded in `magnitude_spec`.
-/

namespace ContributionRegistry.Decimal

/-! ### The scale of comparisons -/

/-- The number that a decimal is. -/
def Scientific.value (d : Scientific) : ℚ := d.digits * 10 ^ d.exponent

theorem Scientific.value_nonneg (d : Scientific) : 0 ≤ d.value := by
  unfold value
  positivity

/-- A zero dropped at the end does not change the number. -/
theorem Scientific.value_ofMultiple (c : ℕ) (p : ℤ) : (ofMultiple c p).value = c * 10 ^ p := by
  unfold ofMultiple
  split
  · next h =>
    have hc : (c : ℚ) = 10 * (c / 10 : ℕ) := by
      exact_mod_cast (Nat.mul_div_cancel' (Nat.dvd_of_mod_eq_zero h)).symm
    rw [value, hc, zpow_add_one₀ (by norm_num)]
    ring
  · rfl

namespace RoundingInterval

variable (i : RoundingInterval) (p : ℤ)

/-- What a number is multiplied with to be compared. -/
def scale : ℚ := 2 ^ (-i.exponent).toNat * 10 ^ (-p).toNat

theorem scale_pos : 0 < i.scale p := by
  unfold scale
  positivity

theorem ofQuarters_eq (quarters : ℕ) :
    (i.ofQuarters p quarters : ℚ) = quarters * 2 ^ i.exponent * i.scale p := by
  rw [ofQuarters, scale, zpow_eq_div two_ne_zero, Nat.pow_eq, Nat.pow_eq]
  push_cast
  field_simp

theorem ofDecimal_eq (c : ℕ) : (i.ofDecimal p c : ℚ) = c * 10 ^ p * i.scale p := by
  rw [ofDecimal, scale, zpow_eq_div (by norm_num) p, Nat.pow_eq, Nat.pow_eq]
  push_cast
  field_simp

/-- Quarters and decimals are compared on the common scale. -/
theorem ofQuarters_le_ofDecimal_iff {quarters c : ℕ} :
    i.ofQuarters p quarters ≤ i.ofDecimal p c ↔
      (quarters : ℚ) * 2 ^ i.exponent ≤ c * 10 ^ p := by
  rw [← Nat.cast_le (α := ℚ), ofQuarters_eq, ofDecimal_eq, mul_le_mul_iff_left₀ (i.scale_pos p)]

/-- Decimals and quarters are compared on the common scale. -/
theorem ofDecimal_le_ofQuarters_iff {quarters c : ℕ} :
    i.ofDecimal p c ≤ i.ofQuarters p quarters ↔
      (c : ℚ) * 10 ^ p ≤ quarters * 2 ^ i.exponent := by
  rw [← Nat.cast_le (α := ℚ), ofQuarters_eq, ofDecimal_eq, mul_le_mul_iff_left₀ (i.scale_pos p)]

/-- Whether a decimal rounds to the number is told by the interval. -/
theorem holds_iff (c : ℕ) : i.holds p c = true ↔ i.Covers (c * 10 ^ p) := by
  unfold holds Covers
  split
  · simp only [Bool.and_eq_true, decide_eq_true_eq, ofQuarters_le_ofDecimal_iff,
      ofDecimal_le_ofQuarters_iff]
  · simp only [Bool.and_eq_true, decide_eq_true_eq, ← not_le, ofQuarters_le_ofDecimal_iff,
      ofDecimal_le_ofQuarters_iff]

/-! ### Neighbours on a grid -/

/-- The number that the interval belongs to. -/
def center : ℚ := i.value * 2 ^ i.exponent

/-- The multiple of a power of ten next below the number. -/
def floor : ℕ := i.ofQuarters p i.value / i.ofDecimal p 1

/-- A step of a grid is something on the common scale. -/
theorem ofDecimal_one_pos : 0 < i.ofDecimal p 1 := by
  have h : (0 : ℚ) < i.ofDecimal p 1 := by
    have := i.scale_pos p
    rw [ofDecimal_eq]
    positivity
  exact_mod_cast h

theorem floor_mul_le : (i.floor p : ℚ) * 10 ^ p ≤ i.center := by
  have h : i.ofDecimal p (i.floor p) ≤ i.ofQuarters p i.value := by
    calc i.ofDecimal p (i.floor p) = i.floor p * i.ofDecimal p 1 := by
          rw [ofDecimal, ofDecimal]
          ring
      _ ≤ i.ofQuarters p i.value := Nat.div_mul_le_self ..
  exact (i.ofDecimal_le_ofQuarters_iff p).1 h

theorem lt_floor_succ_mul : i.center < ((i.floor p + 1 : ℕ) : ℚ) * 10 ^ p := by
  have h : i.ofQuarters p i.value < i.ofDecimal p (i.floor p + 1) := by
    calc i.ofQuarters p i.value < (i.floor p + 1) * i.ofDecimal p 1 := by
          have := Nat.lt_mul_div_succ (i.ofQuarters p i.value) (i.ofDecimal_one_pos p)
          rwa [mul_comm] at this
      _ = i.ofDecimal p (i.floor p + 1) := by
          rw [ofDecimal, ofDecimal]
          ring
  rw [← not_le] at h ⊢
  exact fun hle ↦ h ((i.ofDecimal_le_ofQuarters_iff p).2 hle)

variable {i p} {tie : Tie}

/-- What lies between two numbers that round to one rounds to it as well. -/
theorem Covers.between {u v w : ℚ} (hu : i.Covers u) (hw : i.Covers w) (huv : u ≤ v)
    (hvw : v ≤ w) : i.Covers v := by
  unfold Covers at *
  split
  · next h =>
    rw [if_pos h] at hu hw
    exact ⟨hu.1.trans huv, hvw.trans hw.2⟩
  · next h =>
    rw [if_neg h] at hu hw
    exact ⟨hu.1.trans_le huv, hvw.trans_lt hw.2⟩

/-- What is found on a grid lies on it and rounds to the number. -/
theorem of_onGrid? {d : Scientific} (h : i.onGrid? tie p = some d) :
    i.Covers d.value ∧ ∃ c : ℕ, d.value = c * 10 ^ p := by
  have hmultiple : ∀ c, i.holds p c = true →
      i.Covers (Scientific.ofMultiple c p).value ∧
        ∃ c' : ℕ, (Scientific.ofMultiple c p).value = c' * 10 ^ p := fun c hc ↦ by
    rw [Scientific.value_ofMultiple]
    exact ⟨(i.holds_iff p c).1 hc, c, rfl⟩
  unfold onGrid? at h
  simp only at h
  split at h
  · next hlow hhigh =>
    cases h
    split
    · exact hmultiple _ hlow
    · exact hmultiple _ hhigh
  · next hlow _ =>
    cases h
    exact hmultiple _ hlow
  · next _ hhigh =>
    cases h
    exact hmultiple _ hhigh
  · cases h

/-- If one of the neighbours rounds to the number, something is found. -/
theorem exists_onGrid? (h : i.Covers (i.floor p * 10 ^ p) ∨
    i.Covers ((i.floor p + 1 : ℕ) * 10 ^ p)) : ∃ d, i.onGrid? tie p = some d := by
  rw [← holds_iff, ← holds_iff] at h
  unfold onGrid?
  simp only
  split
  · exact ⟨_, rfl⟩
  · exact ⟨_, rfl⟩
  · exact ⟨_, rfl⟩
  · next hlow hhigh =>
    rcases h with h | h
    · exact absurd h (by simpa [floor] using hlow)
    · exact absurd h (by simpa [floor] using hhigh)

/-- **If any point of a grid rounds to the number, so does a neighbour of the number.** -/
theorem exists_onGrid?_of_covers (tie : Tie) (hcenter : i.Covers i.center) {c : ℕ}
    (hc : i.Covers (c * 10 ^ p)) : ∃ d, i.onGrid? tie p = some d := by
  have hpow : (0 : ℚ) < 10 ^ p := by positivity
  refine exists_onGrid? ?_
  rcases le_or_gt c (i.floor p) with hle | hlt
  · refine .inl (hc.between hcenter ?_ (i.floor_mul_le p))
    gcongr
  · refine .inr (hcenter.between hc (i.lt_floor_succ_mul p).le ?_)
    gcongr
    omega

end RoundingInterval

/-! ### The magnitude -/

/-- The number of digits of a whole number bounds it. -/
theorem digits_bounds {q : ℕ} (hq : 0 < q) :
    (10 : ℚ) ^ ((Text.digitsOf q).length - 1 : ℤ) ≤ q ∧
      (q + 1 : ℚ) ≤ 10 ^ ((Text.digitsOf q).length : ℤ) := by
  have hne := List.length_pos_iff.2 (Text.digitsOf_ne_nil q)
  have hlt : q < 10 ^ (Text.digitsOf q).length := (Text.length_digitsOf_le_iff hne).1 le_rfl
  have hge : 10 ^ ((Text.digitsOf q).length - 1) ≤ q := by
    rcases Nat.lt_or_ge 1 (Text.digitsOf q).length with h | h
    · refine not_lt.1 fun hlt' ↦ ?_
      have := (Text.length_digitsOf_le_iff (by omega)).2 hlt'
      omega
    · rw [Nat.sub_eq_zero_of_le h, pow_zero]
      exact hq
  constructor
  · rw [← Nat.cast_pred hne, zpow_natCast]
    exact_mod_cast hge
  · rw [zpow_natCast]
    exact_mod_cast hlt

/-- A quotient of whole numbers is the whole part of the ratio. -/
theorem div_bounds (a : ℕ) {b : ℕ} (hb : b ≠ 0) :
    ((a / b : ℕ) : ℚ) ≤ a / b ∧ (a / b : ℚ) < (a / b : ℕ) + 1 := by
  have hb' : 0 < b := Nat.pos_of_ne_zero hb
  refine ⟨Nat.cast_div_le, ?_⟩
  rw [div_lt_iff₀ (by exact_mod_cast hb')]
  exact_mod_cast (Nat.lt_mul_div_succ a hb').trans_eq (mul_comm ..)

/-- **The magnitude counts the digits before the point**, or less the zeros behind it. -/
theorem magnitude_spec {n d : ℕ} (hn : n ≠ 0) (hd : d ≠ 0) :
    (10 : ℚ) ^ (magnitude n d - 1) ≤ n / d ∧ (n / d : ℚ) < 10 ^ magnitude n d := by
  have hn' : (0 : ℚ) < n := by exact_mod_cast Nat.pos_of_ne_zero hn
  have hd' : (0 : ℚ) < d := by exact_mod_cast Nat.pos_of_ne_zero hd
  unfold magnitude
  split
  · next hle =>
    obtain ⟨hlow, hhigh⟩ := digits_bounds (Nat.div_pos hle (Nat.pos_of_ne_zero hd))
    exact ⟨hlow.trans (div_bounds n hd).1, (div_bounds n hd).2.trans_le hhigh⟩
  · next hlt =>
    obtain ⟨hlow, hhigh⟩ := digits_bounds (Nat.div_pos (not_le.1 hlt).le (Nat.pos_of_ne_zero hn))
    set t := (Text.digitsOf (d / n)).length with ht
    have hge : (10 : ℚ) ^ (t - 1 : ℤ) ≤ d / n := hlow.trans (div_bounds d hn).1
    have hlt' : (d / n : ℚ) < 10 ^ (t : ℤ) := (div_bounds d hn).2.trans_le hhigh
    have hratio : (n / d : ℚ) = (d / n : ℚ)⁻¹ := (inv_div ..).symm
    have hle' : (n / d : ℚ) ≤ 10 ^ (1 - t : ℤ) := by
      rw [hratio, show (1 - t : ℤ) = -(t - 1) by ring, zpow_neg]
      exact inv_anti₀ (by positivity) hge
    have hgt : (10 : ℚ) ^ (-t : ℤ) < n / d := by
      rw [hratio, zpow_neg]
      exact inv_strictAnti₀ (by positivity) hlt'
    have hpower : n * Nat.pow 10 (t - 1) = d ↔ (n / d : ℚ) = 10 ^ (1 - t : ℤ) := by
      have hone : 1 ≤ t := List.length_pos_iff.2 (Text.digitsOf_ne_nil _)
      rw [show (1 - t : ℤ) = -(t - 1 : ℕ) by omega, zpow_neg, zpow_natCast, div_eq_iff hd'.ne',
        eq_comm, eq_inv_mul_iff_mul_eq₀ (by positivity), eq_comm, Nat.pow_eq, mul_comm]
      norm_cast
    simp only
    split
    · next h =>
      -- the number is the power of ten itself
      rw [hpower.1 h, show (2 - t - 1 : ℤ) = 1 - t by ring]
      exact ⟨le_rfl, zpow_lt_zpow_right₀ (by norm_num) (by omega)⟩
    · next h =>
      rw [show (1 - t - 1 : ℤ) = -t by ring]
      exact ⟨hgt.le, lt_of_le_of_ne hle' fun heq ↦ h (hpower.2 heq)⟩

/-! ### The first grid that has a decimal -/

section

variable {i : RoundingInterval} {tie : Tie} {k : ℤ}

/-- A grid without a decimal is followed by the next one. -/
theorem firstGrid_succ (left : ℕ) : firstGrid tie i k (left + 1) =
    (i.onGrid? tie (k - (17 - left : ℕ))).getD (firstGrid tie i k left) := rfl

/-- If the last grid has a decimal, the one found rounds to the number. -/
theorem covers_firstGrid (hlast : ∃ d, i.onGrid? tie (k - 17) = some d) (left : ℕ) :
    i.Covers (firstGrid tie i k (left + 1)).value := by
  induction left with
  | zero =>
    obtain ⟨d, hd⟩ := hlast
    rw [firstGrid_succ, show (k - (17 - 0 : ℕ) : ℤ) = k - 17 from rfl, hd]
    exact (RoundingInterval.of_onGrid? hd).1
  | succ left ih =>
    rw [firstGrid_succ]
    rcases hd : i.onGrid? tie (k - (17 - (left + 1) : ℕ)) with _ | d
    · exact ih
    · exact (RoundingInterval.of_onGrid? hd).1

/-- A grid that is part of a finer one. -/
theorem multiple_of_le {p q : ℤ} (h : p ≤ q) (c : ℕ) :
    ∃ c' : ℕ, (c : ℚ) * 10 ^ q = c' * 10 ^ p := by
  refine ⟨c * 10 ^ (q - p).toNat, ?_⟩
  push_cast
  rw [mul_assoc, ← zpow_natCast, ← zpow_add₀ (by norm_num), Int.toNat_of_nonneg (by omega)]
  congr 2
  ring

/-- Multiples of a power of ten that are less than it apart are the same. -/
theorem eq_of_abs_sub_lt {p : ℤ} {c c' : ℕ} (h : |(c : ℚ) * 10 ^ p - c' * 10 ^ p| < 10 ^ p) :
    c = c' := by
  have hpos : (0 : ℚ) < 10 ^ p := by positivity
  rw [← sub_mul, abs_mul, abs_of_pos hpos, mul_lt_iff_lt_one_left hpos] at h
  have hint : |(c : ℤ) - c'| < 1 := by exact_mod_cast h
  have := Int.abs_lt_one_iff.1 hint
  omega

/-- **A decimal alone on its grid is found**: if it lies on one of the grids and rounds to the
number, and no two numbers that do are as far apart as the points of that grid. -/
theorem value_firstGrid {j : ℕ} {c : ℕ} (hj : j ≤ 17) (hcenter : i.Covers i.center)
    (hc : i.Covers (c * 10 ^ (k - j)))
    (halone : ∀ v w, i.Covers v → i.Covers w → |v - w| < 10 ^ (k - j)) (left : ℕ)
    (hleft : 17 - left ≤ j) : (firstGrid tie i k (left + 1)).value = c * 10 ^ (k - j) := by
  have hfound : ∀ n d, n ≤ j → i.onGrid? tie (k - (n : ℕ)) = some d →
      d.value = c * 10 ^ (k - j) := fun n d hn hd ↦ by
    obtain ⟨hcovers, c₀, hvalue⟩ := RoundingInterval.of_onGrid? hd
    obtain ⟨c', hc'⟩ := multiple_of_le (show k - j ≤ k - n by omega) c₀
    rw [hvalue, hc'] at hcovers ⊢
    rw [eq_of_abs_sub_lt (halone _ _ hcovers hc)]
  induction left with
  | zero =>
    obtain rfl : j = 17 := by omega
    obtain ⟨d, hd⟩ := RoundingInterval.exists_onGrid?_of_covers tie hcenter hc
    rw [firstGrid_succ, show (17 - 0 : ℕ) = 17 from rfl, hd]
    exact hfound 17 d le_rfl hd
  | succ left ih =>
    rw [firstGrid_succ]
    rcases hd : i.onGrid? tie (k - (17 - (left + 1) : ℕ)) with _ | d
    · refine ih ?_
      by_contra hlater
      obtain rfl : j = 17 - (left + 1) := by omega
      obtain ⟨d, hd'⟩ := RoundingInterval.exists_onGrid?_of_covers tie hcenter hc
      exact absurd (hd.symm.trans hd') (by simp)
    · exact hfound _ d hleft hd

end

/-! ### The shortest decimal -/

namespace Binary64

variable {x : Binary64} {tie : Tie}

/-- The interval of a number is around the number. -/
theorem center_interval (x : Binary64) : x.interval.center = x.value := by
  rw [RoundingInterval.center, value, show x.interval.exponent = x.exponent - 2 from rfl, quarter,
    show x.interval.value = 4 * x.mantissa from rfl]
  push_cast
  ring

/-- The ends of the interval of a number are more than one part in `2 ^ 54` away from it. -/
theorem Regular.covers_of_near (h : x.Regular) (hm : x.mantissa ≠ 0) {v : ℚ}
    (hv : |v - x.value| < x.value / 2 ^ 54) : x.interval.Covers v := by
  have hpos : (0 : ℚ) < 2 ^ x.exponent := by positivity
  have hlt : (x.mantissa : ℚ) < 2 ^ 53 := by exact_mod_cast h.mantissa_lt
  obtain ⟨hlow, hhigh⟩ := abs_lt.1 hv
  have hone : 1 ≤ 4 * x.mantissa ∧ 2 ≤ 4 * x.mantissa := by omega
  -- where the exponent changes the interval is half as wide below, and still wide enough
  have hlower : (x.interval.lower : ℚ) ≤ 4 * x.mantissa - 4 * x.mantissa / 2 ^ 54 := by
    simp only [interval]
    split
    · next hleast =>
      have : (x.mantissa : ℚ) = 2 ^ 52 := by rw [hleast.1]; norm_num
      rw [Nat.cast_sub hone.1]
      push_cast
      linarith
    · rw [Nat.cast_sub hone.2]
      push_cast
      linarith
  have hupper : (x.interval.upper : ℚ) = 4 * x.mantissa + 2 := by
    simp only [interval]
    push_cast
    ring
  have hvalue : x.value = x.mantissa * 2 ^ x.exponent := rfl
  have hstrict : x.interval.lower * 2 ^ x.interval.exponent < v ∧
      v < x.interval.upper * 2 ^ x.interval.exponent := by
    rw [show x.interval.exponent = x.exponent - 2 from rfl, quarter, hupper]
    constructor <;> nlinarith
  unfold RoundingInterval.Covers
  split
  · exact ⟨hstrict.1.le, hstrict.2.le⟩
  · exact hstrict

theorem value_pos (hm : x.mantissa ≠ 0) : 0 < x.value := by
  have : (0 : ℚ) < x.mantissa := by exact_mod_cast Nat.pos_of_ne_zero hm
  unfold value
  positivity

/-- A number rounds to itself. -/
theorem Regular.covers_value (h : x.Regular) (hm : x.mantissa ≠ 0) :
    x.interval.Covers x.value := by
  have := value_pos hm
  refine h.covers_of_near hm ?_
  rw [sub_self, abs_zero]
  positivity

/-- The magnitude says between which powers of ten a number lies. -/
theorem magnitude_bounds (hm : x.mantissa ≠ 0) :
    (10 : ℚ) ^ (magnitude x.numerator x.denominator - 1) ≤ x.value ∧
      x.value < 10 ^ magnitude x.numerator x.denominator := by
  rw [← numerator_div_denominator]
  exact magnitude_spec (numerator_ne_zero (value_pos hm)) x.denominator_ne_zero

/-- On the grid with 17 digits one of the neighbours rounds to the number. -/
theorem Regular.exists_onGrid?_finest (h : x.Regular) (hm : x.mantissa ≠ 0) : ∃ d,
    x.interval.onGrid? tie (magnitude x.numerator x.denominator - 17) = some d := by
  set k := magnitude x.numerator x.denominator with hk
  have hstep : (10 : ℚ) ^ (k - 17) ≤ x.value / 10 ^ 16 := by
    rw [le_div_iff₀ (by positivity), ← zpow_natCast, ← zpow_add₀ (by norm_num),
      show k - 17 + (16 : ℕ) = k - 1 by push_cast; ring]
    exact (magnitude_bounds hm).1
  have hvalue := value_pos hm
  have hbelow := x.interval.floor_mul_le (k - 17)
  have habove := x.interval.lt_floor_succ_mul (k - 17)
  rw [center_interval] at hbelow habove
  push_cast at habove
  refine RoundingInterval.exists_onGrid? ?_
  -- the nearer neighbour is half a step away at most
  rcases le_total (x.value - x.interval.floor (k - 17) * 10 ^ (k - 17)) (10 ^ (k - 17) / 2)
    with hnear | hfar
  · refine .inl (h.covers_of_near hm ?_)
    rw [abs_sub_comm, abs_of_nonneg (by linarith)]
    linarith
  · refine .inr (h.covers_of_near hm ?_)
    push_cast
    rw [abs_of_nonneg (by linarith)]
    linarith

/-- **The shortest decimal rounds to the number.** -/
theorem Regular.covers_shortest (tie : Tie) (h : x.Regular) :
    x.interval.Covers (x.shortest tie).value := by
  unfold shortest
  split
  · next hm =>
    have hzero : x.interval.lower = 0 ∧ x.interval.closed = true := by
      simp [interval, hm]
    rw [RoundingInterval.Covers, if_pos hzero.2, hzero.1, Scientific.value]
    norm_num
    positivity
  · next hm => exact covers_firstGrid (h.exists_onGrid?_finest hm) 16

/-- Two numbers that round to a number of 53 bits are one part in `2 ^ 52` apart at most. -/
theorem abs_sub_le_of_covers (hm : 2 ^ 52 ≤ x.mantissa) {v w : ℚ} (hv : x.interval.Covers v)
    (hw : x.interval.Covers w) : |v - w| ≤ x.value / 2 ^ 52 := by
  obtain ⟨hlower, hupper⟩ := x.ends_interval
  obtain ⟨hv₁, hv₂⟩ := hv.bounds
  obtain ⟨hw₁, hw₂⟩ := hw.bounds
  have hstep : (2 : ℚ) ^ x.exponent ≤ x.value / 2 ^ 52 := by
    have hm' : (2 : ℚ) ^ 52 ≤ x.mantissa := by exact_mod_cast hm
    rw [le_div_iff₀ (by positivity), mul_comm, value]
    gcongr
  rw [abs_le]
  constructor <;> linarith

/-- **The shortest decimal of a rounded decimal is that decimal**, if its digits end before the
precision does. -/
theorem Regular.shortest_eq_of_covers (h : x.Regular) (hm : 2 ^ 52 ≤ x.mantissa) {c : ℕ} {p : ℤ}
    (hc : x.interval.Covers (c * 10 ^ p)) (hfine : x.value / 2 ^ 52 < 10 ^ p) :
    (x.shortest tie).value = c * 10 ^ p := by
  have hm0 : x.mantissa ≠ 0 := by
    have : 0 < 2 ^ 52 := by decide
    omega
  obtain ⟨hlow, hhigh⟩ := magnitude_bounds hm0
  set k := magnitude x.numerator x.denominator with hk
  -- the grid of one digit is fine enough, so nothing coarser is needed
  obtain ⟨q, hq, hqk, hqfine⟩ : ∃ q ≤ p, q ≤ k - 1 ∧ x.value / 2 ^ 52 < 10 ^ q := by
    rcases le_total p (k - 1) with hle | hle
    · exact ⟨p, le_rfl, hle, hfine⟩
    · refine ⟨k - 1, hle, le_rfl, ?_⟩
      have hten : (10 : ℚ) ^ k = 10 ^ (k - 1) * 10 := by
        rw [← zpow_add_one₀ (by norm_num), sub_add_cancel]
      rw [hten] at hhigh
      have hpos : (0 : ℚ) < 10 ^ (k - 1) := by positivity
      rw [div_lt_iff₀ (by positivity)]
      linarith
  have hqge : k - 17 ≤ q := by
    by_contra hlt
    have hpow : (10 : ℚ) ^ q ≤ 10 ^ (k - 1) / 10 ^ 17 := by
      rw [le_div_iff₀ (by positivity), ← zpow_natCast, ← zpow_add₀ (by norm_num)]
      exact zpow_le_zpow_right₀ (by norm_num) (by push_cast; omega)
    have hpos : (0 : ℚ) < 10 ^ (k - 1) := by positivity
    have : x.value / 2 ^ 52 < x.value / 10 ^ 17 := hqfine.trans_le (hpow.trans (by gcongr))
    have hvalue := value_pos hm0
    linarith
  obtain ⟨c', hc'⟩ := multiple_of_le hq c
  obtain ⟨j, rfl⟩ : ∃ j : ℕ, q = k - j := ⟨(k - q).toNat, by omega⟩
  rw [hc'] at hc ⊢
  rw [shortest, if_neg hm0]
  refine value_firstGrid (by omega) ?_ hc (fun v w hv hw ↦ ?_) 16 (by omega)
  · rw [center_interval]
    exact h.covers_value hm0
  · exact (abs_sub_le_of_covers hm hv hw).trans_lt hqfine

/-- Numbers with the least exponent are too small to count. -/
theorem Regular.normal_of_tiny_le (h : x.Regular) (hlarge : tiny / 2 ≤ x.value) :
    2 ^ 52 ≤ x.mantissa := by
  refine h.normal fun he ↦ ?_
  have hlt : (x.mantissa : ℚ) < 2 ^ 53 := by exact_mod_cast h.mantissa_lt
  have hleast := least_pos
  have hleast' := least_le_tiny
  rw [value, he, two_pow_leastExponent] at hlarge
  have : (x.mantissa : ℚ) * (2 * least) < 2 ^ 53 * (2 * least) := by gcongr
  norm_num at *
  linarith

/-- **Decimals of up to 15 digits survive**: each is the shortest decimal of the number that it is
rounded to. -/
theorem Rounded.shortest_eq {c : ℕ} {p : ℤ} (hx : x.Rounded (c * 10 ^ p)) (hc : c < 10 ^ 15)
    (hp : -200 ≤ p) : (x.shortest tie).value = c * 10 ^ p := by
  have hstep : tiny ≤ 10 ^ p := by
    rw [tiny, one_div, ← zpow_natCast, ← zpow_neg]
    exact zpow_le_zpow_right₀ (by norm_num) (by exact_mod_cast hp)
  have herror := abs_le.1 hx.error_le
  have hleast := least_le_tiny
  have htiny := tiny_pos
  rcases Nat.eq_zero_or_pos c with rfl | hpos
  · -- zero is all that is rounded to zero
    have hm : x.mantissa = 0 := by
      by_contra hm
      have hone : (1 : ℚ) ≤ x.mantissa := by exact_mod_cast Nat.one_le_iff_ne_zero.2 hm
      have hexponent : 2 * least ≤ 2 ^ x.exponent := by
        rw [← two_pow_leastExponent]
        exact zpow_le_zpow_right₀ one_le_two hx.least_le
      have hlow : 1 * (2 : ℚ) ^ x.exponent ≤ x.value := by
        rw [value]
        gcongr
      have := least_pos
      simp only [Nat.cast_zero, zero_mul, sub_zero, zero_div, zero_add] at herror
      linarith
    rw [shortest, if_pos hm]
    simp [Scientific.value]
  · have hone : (1 : ℚ) ≤ c := by exact_mod_cast hpos
    have hc' : (c : ℚ) ≤ 10 ^ 15 := by exact_mod_cast hc.le
    have hlow : 10 ^ p ≤ (c : ℚ) * 10 ^ p := le_mul_of_one_le_left (by positivity) hone
    have hhigh : (c : ℚ) * 10 ^ p ≤ 10 ^ 15 * 10 ^ p := by gcongr
    refine hx.shortest_eq_of_covers (hx.normal_of_tiny_le ?_) hx.covers ?_
    · norm_num at *
      linarith
    · norm_num at *
      linarith

end Binary64

end ContributionRegistry.Decimal
