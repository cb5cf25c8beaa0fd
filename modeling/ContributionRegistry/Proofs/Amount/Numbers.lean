import ContributionRegistry.Json.Decoding
import ContributionRegistry.Proofs.Amount.Numerals
import ContributionRegistry.Proofs.Decimal.Shortest

/-!
# Amounts that are given as floating-point numbers

A floating-point number is read as an amount by way of its shortest decimal. That is written as a
numeral which denotes it (`exists_numeral`), so the number is taken for an amount exactly if its
shortest decimal is one: below `10 ^ 16` and with no digit behind the second place
(`parse_doubleText_eq_ok_iff`).

The text of a floating-point number has digits, a point and maybe a minus sign. It is therefore
never torn, and reading it is not abandoned (`parse_doubleText_ne_abandoned`); a number handed in as
JSON is taken or refused.
-/

namespace ContributionRegistry

namespace Decimal.Scientific

open Amount

/-! ### Positional writing -/

/-- A whole number with zeros after its digits. -/
theorem ofDigits_zeros_after (n e : ℕ) :
    Text.ofDigits (Text.digitsOf n ++ List.replicate e '0') = n * 10 ^ e := by
  rw [Text.ofDigits_append, Text.ofDigits_digitsOf, List.length_replicate,
    Text.ofDigits_of_zeros fun c hc ↦ List.eq_of_mem_replicate hc, Nat.add_zero]

/-- How long digits with zeros after them are says how large the number is. -/
theorem length_zeros_after_le_iff {n : ℕ} (hn : n ≠ 0) (e k : ℕ) :
    (Text.digitsOf n ++ List.replicate e '0').length ≤ k ↔ n * 10 ^ e < 10 ^ k := by
  rw [List.length_append, List.length_replicate]
  have hpos := List.length_pos_iff.2 (Text.digitsOf_ne_nil n)
  rcases Nat.lt_or_ge e k with hlt | hge
  · obtain ⟨j, hj⟩ := Nat.exists_eq_add_of_lt hlt
    rw [show 10 ^ k = 10 ^ (j + 1) * 10 ^ e by rw [hj, ← pow_add]; congr 1; omega,
      Nat.mul_lt_mul_right (by positivity)]
    have := Text.length_digitsOf_le_iff (n := n) (Nat.succ_pos j)
    rw [Nat.pow_eq] at this
    omega
  · refine iff_of_false (by omega) (not_lt.2 ?_)
    calc 10 ^ k ≤ 1 * 10 ^ e := by rw [one_mul]; exact Nat.pow_le_pow_right (by decide) hge
      _ ≤ n * 10 ^ e := Nat.mul_le_mul_right _ (Nat.pos_of_ne_zero hn)

/-- The parts of a digit string with a point in it. -/
theorem withPoint_spec (n places : ℕ) : ∃ whole fraction : List Char,
    withPoint places (Text.digitsOf n) = whole ++ '.' :: fraction ∧ whole ≠ [] ∧
      Text.allDigits whole = true ∧ Text.allDigits fraction = true ∧
      Text.denoted whole fraction = n / 10 ^ places ∧
      whole.length = max 1 ((Text.digitsOf n).length - places) := by
  set filled := List.replicate (places + 1 - (Text.digitsOf n).length) '0' ++ Text.digitsOf n
    with hfilled
  have hdigits : Text.allDigits filled = true := Text.allDigits_append.2
    ⟨Text.allDigits_of_zeros fun c hc ↦ List.eq_of_mem_replicate hc, Text.allDigits_digitsOf n⟩
  have hnumber : Text.ofDigits filled = n := by
    rw [Text.ofDigits_append, Text.ofDigits_of_zeros fun c hc ↦ List.eq_of_mem_replicate hc,
      Text.ofDigits_digitsOf, Nat.zero_mul, Nat.zero_add]
  have hlength : filled.length = max (places + 1) (Text.digitsOf n).length := by
    rw [hfilled, List.length_append, List.length_replicate]
    omega
  have hwhole : (filled.take (filled.length - places)).length =
      max 1 ((Text.digitsOf n).length - places) := by
    rw [List.length_take]
    omega
  refine ⟨filled.take (filled.length - places), filled.drop (filled.length - places), rfl, ?_,
    Text.allDigits_take hdigits _, Text.allDigits_drop hdigits _, ?_, hwhole⟩
  · rw [← List.length_pos_iff, hwhole]
    omega
  · rw [Text.denoted_eq_div, List.take_append_drop, hnumber, List.length_drop,
      Nat.sub_sub_self (by omega)]

/-- **A decimal in positional writing is a numeral that denotes it.** -/
theorem exists_numeral (d : Scientific) (sign : Sign) : ∃ n : Numeral, n.Digital ∧
    n.text = sign.text ++ d.positional ∧ n.value = sign.factor * d.value ∧
      (n.whole.length ≤ 16 ↔ d.value < 10 ^ 16) := by
  unfold positional
  split
  -- without digits after the point the numeral is whole: zero, or the digits and some zeros
  · next he =>
    obtain ⟨e, he⟩ := Int.eq_ofNat_of_zero_le he
    have hvalue : d.value = (d.digits * 10 ^ e : ℕ) := by
      rw [value, he, zpow_natCast]
      push_cast
      rfl
    split
    · next hn =>
      refine ⟨⟨sign, ['0'], none⟩, ⟨List.cons_ne_nil _ _, rfl, rfl⟩, ?_, ?_, ?_⟩
      · simp [Numeral.text, Numeral.pointed]
      · rw [hvalue, hn]
        rw [Numeral.value, Numeral.places, Option.getD_none, Text.denoted_nil,
          show Text.ofDigits ['0'] = 0 from rfl, Nat.zero_mul]
      · rw [hvalue, hn]
        norm_num
    · next hn =>
      rw [he]
      refine ⟨⟨sign, Text.digitsOf d.digits ++ List.replicate e '0', none⟩,
        ⟨by simp [Text.digitsOf_ne_nil], ?_, rfl⟩, ?_, ?_, ?_⟩
      · exact Text.allDigits_append.2 ⟨Text.allDigits_digitsOf _,
          Text.allDigits_of_zeros fun c hc ↦ List.eq_of_mem_replicate hc⟩
      · simp [Numeral.text, Numeral.pointed]
      · rw [Numeral.value, Numeral.places, Option.getD_none, Text.denoted_nil,
          ofDigits_zeros_after, hvalue]
      · rw [length_zeros_after_le_iff hn, hvalue]
        norm_cast
  · next he =>
    -- a negative exponent puts the point among the digits or before them
    obtain ⟨whole, fraction, htext, hne, hwhole, hfraction, hdenoted, hlength⟩ :=
      withPoint_spec d.digits (-d.exponent).toNat
    have hvalue : d.value = d.digits / 10 ^ (-d.exponent).toNat := by
      rw [value, zpow_eq_div (by norm_num), Int.toNat_of_nonpos (by omega), pow_zero,
        ← mul_div_assoc, mul_one]
    refine ⟨⟨sign, whole, some fraction⟩, ⟨hne, hwhole, hfraction⟩, ?_, ?_, ?_⟩
    · rw [htext, Numeral.text, Numeral.pointed, List.append_assoc]
    · rw [Numeral.value, Numeral.places, Option.getD_some, hdenoted, hvalue]
    · rw [hvalue, div_lt_iff₀ (by positivity), hlength]
      have := Text.length_digitsOf_le_iff (n := d.digits)
        (show 0 < 16 + (-d.exponent).toNat by omega)
      rw [Nat.pow_eq, pow_add] at this
      rw [show max 1 ((Text.digitsOf d.digits).length - (-d.exponent).toNat) ≤ 16 ↔
        (Text.digitsOf d.digits).length ≤ 16 + (-d.exponent).toNat by omega, this]
      norm_cast

end Decimal.Scientific

namespace Amount

open Decimal

/-! ### Reading floating-point numbers -/

/-- The sign of a number. -/
def Sign.ofNegative (negative : Bool) : Sign := if negative then .minus else .none

/-- A numeral is admitted if it is short enough and whole in hundredths. -/
theorem Numeral.Digital.admitted_iff {n : Numeral} (h : n.Digital) :
    n.Admitted ↔ n.whole.length ≤ 16 ∧ ∃ z : ℤ, 100 * n.value = z := by
  have hsign : (∃ z : ℤ, 100 * n.value = z) ↔
      ∃ z : ℤ, 10 ^ 2 * Text.denoted n.whole n.places = z := by
    rw [Numeral.value]
    cases n.sign with
    | minus => rw [← Text.exists_eq_cast_neg_iff]; norm_num [Sign.factor]
    | none | plus => norm_num [Sign.factor]
  rw [hsign, ← Text.zeros_iff n.whole h.places_digits 2]
  exact ⟨fun hn ↦ ⟨hn.whole_length_le, hn.zeros⟩, fun hn ↦ ⟨h, hn.1, hn.2⟩⟩

/-- A floating-point number is given as a numeral. -/
theorem exists_numeral_doubleText (negative : Bool) (x : Binary64) : ∃ n : Numeral, n.Digital ∧
    Text.trim (Json.doubleText negative x).toList = n.text ∧
      n.value = (Sign.ofNegative negative).factor * (x.shortest .up).value ∧
        (n.whole.length ≤ 16 ↔ (x.shortest .up).value < 10 ^ 16) := by
  obtain ⟨n, hd, htext, hvalue, hlength⟩ :=
    (x.shortest .up).exists_numeral (Sign.ofNegative negative)
  refine ⟨n, hd, ?_, hvalue, hlength⟩
  have hsign : (if negative then ['-'] else []) = (Sign.ofNegative negative).text := by
    cases negative <;> rfl
  rw [Json.doubleText, String.toList_ofList, hsign, ← htext, Text.trim_eq_self hd.not_blank_of_mem]

/-- **Which floating-point numbers are read as an amount, and as which one.** -/
theorem parse_doubleText_eq_ok_iff {negative : Bool} {x : Binary64} {a : Amount} :
    parse (Json.doubleText negative x) = .ok a ↔ (x.shortest .up).value < 10 ^ 16 ∧
      (a.minorUnits : ℚ) = 100 * ((Sign.ofNegative negative).factor * (x.shortest .up).value) := by
  obtain ⟨n, hd, htrim, hvalue, hlength⟩ := exists_numeral_doubleText negative x
  rw [parse_numeral_eq_ok_iff hd htrim, hd.admitted_iff, hlength, hvalue]
  exact ⟨fun h ↦ ⟨h.1.1, h.2⟩, fun h ↦ ⟨⟨h.1, a.minorUnits, h.2.symm⟩, h.2⟩⟩

/-- No floating-point number abandons its reader. -/
theorem parse_doubleText_ne_abandoned (negative : Bool) (x : Binary64) :
    parse (Json.doubleText negative x) ≠ .error .abandoned := by
  obtain ⟨n, hd, htrim, -⟩ := exists_numeral_doubleText negative x
  rw [parse_numeral hd htrim]
  split
  · split <;> nofun
  · nofun

end Amount

end ContributionRegistry
