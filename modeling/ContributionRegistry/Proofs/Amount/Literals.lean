import ContributionRegistry.Proofs.Amount.Numbers
import ContributionRegistry.Proofs.Json.Literals
import ContributionRegistry.Proofs.Records.DecodedLists

/-!
# Amounts that are given as number literals

A number literal is either taken exactly, as a whole number of units, or by way of a floating-point
number and its shortest decimal (`taken_cases`). On the second way a literal that is no whole number
of hundredths can be taken for an amount which it does not denote, and from 70368744177664 units on
so can one that is.

What holds is that no amount is off by more than one part in `2 ^ 50`, so that below `10 ^ 13` units
all literals of hundredths are taken exactly (`decode_literal`). Two roundings are made on the way,
of the digits and of the scaled number, and a third distance comes in with the shortest decimal,
which lies within half a step of the mantissa; `shortest_near` adds them up.

Below the bound there is no room for a wrong one among the hundredths: two of them are further apart
than the error (`eq_hundredths_of_near`). `decode_literal_altered` is a literal from beyond the
bound that is taken for its neighbour.
-/

namespace ContributionRegistry.Amount

open Decimal

/-! ### Decoding a literal -/

section

variable {l : NumberLiteral} {a : Amount}

/-- The text of a literal. -/
def literalText (l : NumberLiteral) : String := String.ofList (Json.writeNumber l)

/-- A text that is one literal is decoded as the literal. -/
theorem decodeText_literal (h : l.Positional) :
    Json.decodeText Json.toAmount (literalText l) = Json.toAmount (.number l) := by
  rw [Json.decodeText, literalText, String.toList_ofList, Json.decode, Json.parse_writeNumber h]
  cases Json.toAmount (.number l) <;> rfl

/-- A whole number is taken for so many units. -/
theorem decode_integer {n : ℤ} (hn : l.value = .integer n)
    (h : Json.toAmount (.number l) = .ok a) : a.minorUnits = n * 100 := by
  rw [Json.toAmount, hn] at h
  exact minorUnits_of_ofUnits (Attempt.eq_ok_of_ofExcept (Attempt.eq_ok_of_restate h))

/-- Any other number is taken for what its shortest decimal is read as. -/
theorem decode_double {negative : Bool} {x : Binary64} (hx : l.value = .double negative x)
    (h : Json.toAmount (.number l) = .ok a) : parse (Json.doubleText negative x) = .ok a := by
  rw [Json.toAmount, hx] at h
  exact Attempt.eq_ok_of_restate h

/-- A literal that is an integer denotes it. -/
theorem denotes_of_integer {n : ℤ} (hn : l.value = .integer n) : l.denotes = n := by
  have hno : l.toDouble ≠ .integer n := fun hm ↦ by
    unfold NumberLiteral.toDouble at hm
    simp only at hm
    split at hm <;> cases hm
  unfold NumberLiteral.value at hn
  simp only at hn
  split at hn
  · next hwhole =>
    have hsize : l.size = Text.ofDigits l.whole := by
      rw [NumberLiteral.size, hwhole.1, Text.denoted_nil]
    split at hn
    · next hsign =>
      split at hn
      · cases hn
        rw [NumberLiteral.denotes, if_pos hsign, hsize]
        push_cast
        rfl
      · exact absurd hn hno
    · next hsign =>
      split at hn
      · cases hn
        rw [NumberLiteral.denotes, if_neg hsign, hsize]
        rfl
      · exact absurd hn hno
  · exact absurd hn hno

variable {negative : Bool} {x : Binary64}

/-- Whole numbers are taken for floating-point numbers only where 64 bits do not hold them. -/
theorem toDouble_of_value (hx : l.value = .double negative x) :
    l.toDouble = .double negative x ∧
      (l.fraction = [] → l.exponent = none → l.size = 0 ∨ 9223372036854775808 ≤ l.size) := by
  unfold NumberLiteral.value at hx
  simp only at hx
  split at hx
  · next hwhole =>
    have hsize : l.size = (Nat.ofDigitChars 10 l.whole 0 : ℕ) := by
      rw [NumberLiteral.size, hwhole.1, Text.denoted_nil]
      rfl
    -- a whole number is read as one if 64 bits hold it, with a sign or without
    have hlarge : ∀ bound : ℕ, ¬Nat.ofDigitChars 10 l.whole 0 < bound → (bound : ℚ) ≤ l.size :=
      fun bound hnot ↦ by
        rw [hsize]
        exact_mod_cast not_lt.1 hnot
    split at hx
    · split at hx
      · cases hx
      · next hbeyond =>
        refine ⟨hx, fun _ _ ↦ ?_⟩
        rcases Nat.eq_zero_or_pos (Nat.ofDigitChars 10 l.whole 0) with hzero | hpos
        · exact .inl (by rw [hsize, hzero, Nat.cast_zero])
        · exact .inr (hlarge 9223372036854775808 fun hlt ↦ hbeyond ⟨hpos, hlt.le⟩)
    · split at hx
      · cases hx
      · next hbeyond =>
        refine ⟨hx, fun _ _ ↦ .inr (le_trans ?_ (hlarge _ hbeyond))⟩
        rw [NumberLiteral.wordBound]
        norm_num
  · next hwhole => exact ⟨hx, fun hf he ↦ absurd ⟨hf, he⟩ hwhole⟩

/-! ### Exact and inexact literals -/

/-- Where a sign stands in front of both, numbers are as far apart as without it. -/
theorem signed_sub_denotes (l : NumberLiteral) (q : ℚ) :
    |(Sign.ofNegative l.negative).factor * q - l.denotes| = |q - l.size| := by
  rw [NumberLiteral.denotes]
  cases l.negative with
  | true =>
    rw [if_pos rfl, Sign.ofNegative, if_pos rfl, Sign.factor, abs_sub_comm q]
    congr 1
    ring
  | false => simp [Sign.ofNegative, Sign.factor]

/-- The shortest decimal of a literal is near to what the literal denotes. -/
theorem shortest_near (h : l.Positional) (hx : l.toDouble = .double negative x) :
    |(x.shortest .up).value - l.size| ≤ l.size / 2 ^ 50 + 2 * Binary64.tiny := by
  obtain ⟨-, hregular, hnear⟩ := NumberLiteral.toDouble_near h hx
  have hshortest := abs_le.1 (hregular.abs_sub_le (hregular.covers_shortest .up))
  have hnear := abs_le.1 hnear
  have hleast := Binary64.least_le_tiny
  have htiny := Binary64.tiny_pos
  have hsize := l.size_nonneg
  rw [abs_le]
  norm_num at *
  constructor <;> linarith

/-- The two ways in which a literal is taken for an amount. -/
theorem taken_cases (h : l.Positional)
    (ha : Json.decodeText Json.toAmount (literalText l) = .ok a) :
    ((∃ n, l.value = .integer n) ∧ (a.minorUnits : ℚ) = 100 * l.denotes) ∨
      ∃ negative x, l.value = .double negative x ∧ (x.shortest .up).value < 10 ^ 16 ∧
        |(a.minorUnits / 100 : ℚ) - l.denotes| = |(x.shortest .up).value - l.size| := by
  rw [decodeText_literal h] at ha
  rcases hvalue : l.value with n | ⟨negative, x⟩ | _
  · refine .inl ⟨⟨n, rfl⟩, ?_⟩
    rw [decode_integer hvalue ha, denotes_of_integer hvalue]
    push_cast
    ring
  · refine .inr ⟨negative, x, rfl, ?_⟩
    obtain ⟨hlt, hunits⟩ := parse_doubleText_eq_ok_iff.1 (decode_double hvalue ha)
    obtain ⟨rfl, -⟩ := NumberLiteral.toDouble_near h (toDouble_of_value hvalue).1
    refine ⟨hlt, ?_⟩
    rw [hunits, mul_div_cancel_left₀ _ (by norm_num), signed_sub_denotes]
  · rw [Json.toAmount, hvalue] at ha
    cases ha

/-- Behind the second place there are only zeros exactly in a number of hundredths. -/
theorem zeros_iff_hundredths (h : l.Positional) :
    (∀ c ∈ l.fraction.drop 2, c = '0') ↔ ∃ z : ℤ, 100 * l.denotes = z := by
  rw [Text.zeros_iff l.whole h.fraction_digits, ← NumberLiteral.size, NumberLiteral.denotes]
  cases l.negative with
  | true => rw [if_pos rfl, mul_neg, Text.exists_eq_cast_neg_iff]; norm_num
  | false => norm_num

/-- Whole numbers of hundredths that are less than one apart are the same. -/
theorem eq_hundredths_of_near {z : ℤ} (hz : 100 * l.denotes = z)
    (hnear : |(a.minorUnits / 100 : ℚ) - l.denotes| < 1 / 100) :
    (a.minorUnits : ℚ) = 100 * l.denotes := by
  have habs : |(a.minorUnits : ℚ) - z| < 1 := by
    rw [← hz, show (a.minorUnits - 100 * l.denotes : ℚ) = 100 * (a.minorUnits / 100 - l.denotes) by
      ring, abs_mul, abs_of_pos (by norm_num : (0 : ℚ) < 100)]
    linarith
  have heq : a.minorUnits - z = 0 := Int.abs_lt_one_iff.1 (by exact_mod_cast habs)
  rw [hz]
  exact_mod_cast sub_eq_zero.1 heq

/-- Below `10 ^ 13` units, what is near to a number of hundredths is that number. -/
theorem exact_of_zeros (h : l.Positional) (hbound : l.size < 10 ^ 13)
    (hzeros : ∀ c ∈ l.fraction.drop 2, c = '0')
    (hnear : |(a.minorUnits / 100 : ℚ) - l.denotes| ≤ l.size / 2 ^ 50 + 2 * Binary64.tiny) :
    (a.minorUnits : ℚ) = 100 * l.denotes := by
  obtain ⟨z, hz⟩ := (zeros_iff_hundredths h).1 hzeros
  have hsmall := Binary64.tiny_le
  refine eq_hundredths_of_near hz (hnear.trans_lt ?_)
  norm_num at *
  linarith

/-- **How literals are taken for amounts.** A literal that is accepted is taken exactly if it is an
integer of 64 bits, or else is the shortest decimal of its floating-point number. So whole numbers
are; no literal is off by more than one part in `2 ^ 50`, apart from what is too small to count; and
below `10 ^ 13` units those taken exactly are those with no digit but zeros behind the second place,
whatever else is accepted. -/
theorem decode_literal (h : l.Positional)
    (ha : Json.decodeText Json.toAmount (literalText l) = .ok a) :
    ((a.minorUnits : ℚ) = 100 * l.denotes ↔
      ∀ negative x, l.value = .double negative x → (x.shortest .up).value = l.size) ∧
    (l.fraction = [] → (a.minorUnits : ℚ) = 100 * l.denotes) ∧
    |(a.minorUnits / 100 : ℚ) - l.denotes| ≤ l.size / 2 ^ 50 + 2 * Binary64.tiny ∧
    (l.size < 10 ^ 13 →
      ((a.minorUnits : ℚ) = 100 * l.denotes ↔ ∀ c ∈ l.fraction.drop 2, c = '0')) := by
  have hsize := l.size_nonneg
  have htiny := Binary64.tiny_pos
  -- as a whole number the literal is exact; as a floating-point number it is off by what its
  -- shortest text is off
  rcases taken_cases h ha with ⟨⟨n, hn⟩, hexact⟩ | ⟨negative, x, hx, hlt, herror⟩
  · have hzero : |(a.minorUnits / 100 : ℚ) - l.denotes| = 0 := by
      rw [hexact, mul_div_cancel_left₀ _ (by norm_num), sub_self, abs_zero]
    refine ⟨iff_of_true hexact fun negative x hx ↦ ?_, fun _ ↦ hexact, ?_, fun _ ↦ ?_⟩
    · rw [hn] at hx
      cases hx
    · rw [hzero]
      positivity
    · exact iff_of_true hexact ((zeros_iff_hundredths h).2 ⟨a.minorUnits, hexact.symm⟩)
  · obtain ⟨hdouble, hwhole⟩ := toDouble_of_value hx
    have hnear := herror ▸ shortest_near h hdouble
    have hexact : (a.minorUnits : ℚ) = 100 * l.denotes ↔ (x.shortest .up).value = l.size := by
      rw [← sub_eq_zero (a := (x.shortest .up).value), ← abs_eq_zero, ← herror, abs_eq_zero,
        sub_eq_zero, div_eq_iff (by norm_num), mul_comm]
    refine ⟨hexact.trans ⟨fun heq negative' x' hx' ↦ ?_, fun hall ↦ hall negative x hx⟩,
      fun hfraction ↦ ?_, hnear, fun hbound ↦ ⟨fun heq ↦ ?_, fun hzeros ↦
        exact_of_zeros h hbound hzeros hnear⟩⟩
    · rw [hx] at hx'
      cases hx'
      exact heq
    · -- whole numbers that are taken for floating-point numbers are too large to be accepted
      rcases hwhole hfraction h.exponent_eq with hzero | hlarge
      · exact exact_of_zeros h (by rw [hzero]; positivity) (by simp [hfraction]) hnear
      · have hnear' := abs_le.1 (shortest_near h hdouble)
        have hsmall := Binary64.tiny_le
        exfalso
        norm_num at *
        linarith
    · exact (zeros_iff_hundredths h).2 ⟨a.minorUnits, heq.symm⟩

/-- A price with its hundredths. -/
theorem decode_literal_price :
    let l : NumberLiteral := ⟨false, ['1', '9'], ['9', '0'], none⟩
    let a : Amount := ⟨1990, by decide, by decide⟩
    l.Positional ∧ Json.decodeText Json.toAmount (literalText l) = .ok a ∧ l.size < 10 ^ 13 ∧
      (a.minorUnits : ℚ) = 100 * l.denotes := by
  intro l a
  have hl : l.Positional := by decide
  have ha : Json.decodeText Json.toAmount (literalText l) = .ok a := by decide +kernel
  have hsize : l.size < 10 ^ 13 := by
    have hdigits : Text.ofDigits ['1', '9'] = 19 ∧ Text.ofDigits ['9', '0'] = 90 := by decide
    simp only [l, NumberLiteral.size, Text.denoted, hdigits, List.length_cons, List.length_nil]
    norm_num
  exact ⟨hl, ha, hsize, ((decode_literal hl ha).2.2.2 hsize).2 (by simp [l])⟩

/-- Two literals that are accepted without being taken exactly: one of hundredths, just beyond
`2 ^ 46` units, that is moved by one hundredth, and one with a digit in the 17th place, which is
lost. -/
theorem decode_literal_altered :
    let far : NumberLiteral := ⟨false, "70368744177664".toList, ['0', '1'], none⟩
    let fine : NumberLiteral := ⟨false, ['0'], "10000000000000001".toList, none⟩
    (far.Positional ∧ Json.decodeText Json.toAmount (literalText far) =
      .ok ⟨7036874417766402, by decide, by decide⟩ ∧
        (7036874417766402 : ℚ) ≠ 100 * far.denotes) ∧
    (fine.Positional ∧ Json.decodeText Json.toAmount (literalText fine) =
      .ok ⟨10, by decide, by decide⟩ ∧ (10 : ℚ) ≠ 100 * fine.denotes) := by
  intro far fine
  have hfar : far.denotes = 7036874417766401 / 100 := by
    have hdigits : Text.ofDigits "70368744177664".toList = 70368744177664 ∧
        Text.ofDigits ['0', '1'] = 1 := by decide
    simp only [far, NumberLiteral.denotes, NumberLiteral.size, Text.denoted, hdigits,
      List.length_cons, List.length_nil]
    norm_num
  have hfine : fine.denotes = 10000000000000001 / 10 ^ 17 := by
    have hdigits : Text.ofDigits ['0'] = 0 ∧
        Text.ofDigits "10000000000000001".toList = 10000000000000001 ∧
          "10000000000000001".toList.length = 17 := by decide
    simp only [fine, NumberLiteral.denotes, NumberLiteral.size, Text.denoted, hdigits]
    norm_num
  refine ⟨⟨by decide, by decide +kernel, ?_⟩, ⟨by decide, by decide +kernel, ?_⟩⟩
  · rw [hfar]
    norm_num
  · rw [hfine]
    norm_num

end

end ContributionRegistry.Amount
