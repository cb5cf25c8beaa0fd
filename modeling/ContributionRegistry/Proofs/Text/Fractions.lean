import ContributionRegistry.Text.Digits
import Mathlib.Algebra.Order.Field.Basic
import Mathlib.Data.Rat.Cast.Order
import Mathlib.Tactic.FieldSimp
import Mathlib.Tactic.Linarith
import Mathlib.Tactic.NormNum
import Mathlib.Tactic.Positivity
import Mathlib.Tactic.Ring

/-!
# Digits before and after a point

The number that digits around a point denote (`denoted`), and what its fraction digits tell: behind
the `k`-th one there are only zeros exactly if `10 ^ k` times the number is whole (`zeros_iff`).

So whether a text has too many digits for hundredths can be asked of the number instead of the text.
All digits together are one number over a power of ten (`denoted_eq_div`), and zeros at the end
change nothing (`denoted_append_zeros`).
-/

namespace ContributionRegistry.Text

/-- The number that digits before and after a point denote. -/
def denoted (whole fraction : List Char) : ℚ :=
  ofDigits whole + ofDigits fraction / 10 ^ fraction.length

theorem denoted_nonneg (whole fraction : List Char) : 0 ≤ denoted whole fraction := by
  unfold denoted
  positivity

theorem denoted_nil (whole : List Char) : denoted whole [] = ofDigits whole := by
  simp [denoted, ofDigits]

theorem allDigits_append {a b : List Char} :
    allDigits (a ++ b) = true ↔ allDigits a = true ∧ allDigits b = true := by
  rw [allDigits, List.all_append, Bool.and_eq_true, ← allDigits, ← allDigits]

theorem allDigits_take {text : List Char} (h : allDigits text = true) (k : ℕ) :
    allDigits (text.take k) = true :=
  List.all_eq_true.2 fun c hc ↦ List.all_eq_true.1 h c (List.mem_of_mem_take hc)

theorem allDigits_drop {text : List Char} (h : allDigits text = true) (k : ℕ) :
    allDigits (text.drop k) = true :=
  List.all_eq_true.2 fun c hc ↦ List.all_eq_true.1 h c (List.mem_of_mem_drop hc)

theorem allDigits_of_zeros {zeros : List Char} (h : ∀ c ∈ zeros, c = '0') :
    allDigits zeros = true :=
  List.all_eq_true.2 fun c hc ↦ by rw [h c hc]; rfl

/-- A number of digits in two parts. -/
theorem ofDigits_append (a b : List Char) :
    ofDigits (a ++ b) = ofDigits a * 10 ^ b.length + ofDigits b := by
  rw [ofDigits, Nat.ofDigitChars_append, Nat.ofDigitChars_eq_ofDigitChars_zero, ← ofDigits,
    ← ofDigits, mul_comm]

/-- The digits are those of the number without the point. -/
theorem denoted_eq_div (whole fraction : List Char) :
    denoted whole fraction = ofDigits (whole ++ fraction) / 10 ^ fraction.length := by
  rw [denoted, ofDigits_append]
  push_cast
  field_simp

/-! ### Zeros at the end -/

theorem ofDigits_of_zeros {zeros : List Char} (h : ∀ c ∈ zeros, c = '0') :
    ofDigits zeros = 0 := by
  rw [List.eq_replicate_of_mem h, ofDigits, Nat.ofDigitChars_replicate_zero, Nat.mul_zero]

theorem zeros_of_ofDigits {text : List Char} (h : allDigits text = true)
    (hzero : ofDigits text = 0) : ∀ c ∈ text, c = '0' := by
  have hzeros : ∀ c ∈ List.replicate text.length '0', c = '0' :=
    fun c hc ↦ List.eq_of_mem_replicate hc
  rwa [eq_of_ofDigits_eq h (allDigits_of_zeros hzeros) List.length_replicate.symm
    (hzero.trans (ofDigits_of_zeros hzeros).symm)]

/-- Zeros at the end of the fraction do not count. -/
theorem denoted_append_zeros (whole fraction : List Char) {zeros : List Char}
    (h : ∀ c ∈ zeros, c = '0') : denoted whole (fraction ++ zeros) = denoted whole fraction := by
  rw [denoted, denoted, ofDigits_append, ofDigits_of_zeros h, List.length_append, pow_add]
  push_cast
  field_simp
  ring

/-- The first `k` fraction digits and the number that those behind them denote. -/
theorem pow_mul_denoted (whole fraction : List Char) {k : ℕ} (hk : k ≤ fraction.length) :
    10 ^ k * denoted whole fraction =
      ofDigits (whole ++ fraction.take k) + denoted [] (fraction.drop k) := by
  obtain ⟨n, hn⟩ := Nat.exists_eq_add_of_le hk
  have htake : (fraction.take k).length = k := List.length_take_of_le hk
  have hdrop : (fraction.drop k).length = n := by rw [List.length_drop, hn, Nat.add_sub_cancel_left]
  have hparts : ofDigits fraction =
      ofDigits (fraction.take k) * 10 ^ n + ofDigits (fraction.drop k) := by
    conv_lhs => rw [← List.take_append_drop k fraction, ofDigits_append, hdrop]
  rw [denoted, denoted, ofDigits_append, htake, hdrop, hparts, hn, pow_add]
  push_cast
  field_simp
  simp [ofDigits]
  ring

/-- **Behind the `k`-th fraction digit there are only zeros** exactly if the number is a whole
number of parts of size `1 / 10 ^ k`. -/
theorem zeros_iff (whole : List Char) {fraction : List Char} (h : allDigits fraction = true)
    (k : ℕ) : (∀ c ∈ fraction.drop k, c = '0') ↔ ∃ z : ℤ, 10 ^ k * denoted whole fraction = z := by
  rcases Nat.le_total fraction.length k with hshort | hlong
  · refine iff_of_true (by simp [List.drop_eq_nil_of_le hshort]) ?_
    obtain ⟨n, rfl⟩ := Nat.exists_eq_add_of_le hshort
    refine ⟨10 ^ n * ofDigits (whole ++ fraction), ?_⟩
    rw [denoted_eq_div, pow_add]
    push_cast
    field_simp
  · rw [pow_mul_denoted whole fraction hlong]
    have hrest : denoted [] (fraction.drop k) < 1 := by
      have hlt := ofDigits_lt (allDigits_drop h k)
      rw [Nat.pow_eq] at hlt
      rw [denoted_eq_div, List.nil_append, div_lt_one (by positivity)]
      exact_mod_cast hlt
    -- what is behind the place is less than one, so it is whole only if it is zero
    constructor
    · intro hzeros
      have : denoted [] (fraction.drop k) = 0 := by
        rw [denoted_eq_div, List.nil_append, ofDigits_of_zeros hzeros]
        simp
      exact ⟨ofDigits (whole ++ fraction.take k), by rw [this]; simp⟩
    · rintro ⟨z, hz⟩
      have hint : denoted [] (fraction.drop k) = (z - ofDigits (whole ++ fraction.take k) : ℤ) := by
        push_cast
        linarith
      have hnonneg := denoted_nonneg [] (fraction.drop k)
      rw [hint] at hrest hnonneg
      have hz0 : z - ofDigits (whole ++ fraction.take k) = (0 : ℤ) := by
        have h0 : (0 : ℤ) ≤ z - ofDigits (whole ++ fraction.take k) := by exact_mod_cast hnonneg
        have h1 : z - ofDigits (whole ++ fraction.take k) < (1 : ℤ) := by exact_mod_cast hrest
        omega
      rw [hz0, denoted_eq_div, List.nil_append] at hint
      refine zeros_of_ofDigits (allDigits_drop h k) ?_
      have := (div_eq_zero_iff.1 (hint.trans Int.cast_zero)).resolve_right (by positivity)
      exact_mod_cast this

/-- A number is whole if the opposite one is. -/
theorem exists_eq_cast_neg_iff {q : ℚ} : (∃ z : ℤ, -q = z) ↔ ∃ z : ℤ, q = z := by
  constructor
  · rintro ⟨z, hz⟩
    exact ⟨-z, by rw [Int.cast_neg, ← hz, neg_neg]⟩
  · rintro ⟨z, rfl⟩
    exact ⟨-z, (Int.cast_neg z).symm⟩

end ContributionRegistry.Text
