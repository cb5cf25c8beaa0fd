import ContributionRegistry.Proofs.Amount.Literals
import ContributionRegistry.Proofs.Text.Numerals

/-!
# Amounts as numbers and as strings

Up to the largest amount of a contribution, a number is as good as a string: whatever is left of an
amount's text when zeros at its end are taken off is a number literal that is decoded as the amount
(`decodeText_spelled`), and the text itself as a string is so, too (`decodeText_string`). With
hundredths in it, the literal has twelve digits at most, which survive both roundings; without them
it is a whole number of units.

`Spelled` says which texts are such spellings of an amount, and `Spells` what a literal must be like
to be the literal of one. That every spelling is the text of a literal, and of one only, is what the
first part is about (`Spelled.exists_literal`, `literalText_inj`).
-/

namespace ContributionRegistry.Amount

open Decimal

/-- A way to write an amount as a number: its text, or what is left of it without some of the zeros
that its fraction ends with, and without the point if no digit is left behind it. -/
def Spelled (a : Amount) (text : String) : Prop :=
  ∃ units fraction zeros : List Char, spell a.minorUnits = units ++ '.' :: (fraction ++ zeros) ∧
    (∀ c ∈ zeros, c = '0') ∧
      text.toList = units ++ if fraction.isEmpty then [] else '.' :: fraction

section

variable {a : Amount} {text : String}

/-- The literal that a spelling is. -/
theorem Spelled.exists_literal (h : Spelled a text) : ∃ l : NumberLiteral, l.Positional ∧
    text = literalText l ∧ l.negative = decide (a.minorUnits < 0) ∧
      l.whole = Text.digitsOf (a.minorUnits.natAbs / 100) ∧
        ∃ zeros, (∀ c ∈ zeros, c = '0') ∧
          l.fraction ++ zeros = Text.padded 2 (a.minorUnits.natAbs % 100) := by
  obtain ⟨units, fraction, zeros, hspell, hzeros, htext⟩ := h
  set whole := Text.digitsOf (a.minorUnits.natAbs / 100) with hwhole
  set cents := Text.padded 2 (a.minorUnits.natAbs % 100) with hcents
  have hpoint : ∀ {digits : List Char}, Text.allDigits digits = true → '.' ∉ digits :=
    fun hdigits hmem ↦ absurd (List.all_eq_true.1 hdigits _ hmem) (by decide)
  have hunits : '.' ∉ (if a.minorUnits < 0 then ['-'] else []) ++ whole := by
    rw [List.mem_append]
    rintro (hsign | hmem)
    · split at hsign <;> simp at hsign
    · exact hpoint (Text.allDigits_digitsOf _) hmem
  -- there is only one point to split at
  rw [spell] at hspell
  obtain ⟨hleft, -, hright⟩ := (List.append_cons_inj_of_notMem hunits
    (hpoint (Text.allDigits_padded 2 _))).1 hspell
  have hfraction : Text.allDigits fraction = true := by
    have hall : Text.allDigits (fraction ++ zeros) = true := by
      rw [← hright]
      exact Text.allDigits_padded 2 _
    exact (Text.allDigits_append.1 hall).1
  refine ⟨⟨decide (a.minorUnits < 0), whole, fraction, none⟩,
    ⟨Text.digitsOf_ne_nil _, Text.allDigits_digitsOf _, Text.zero_of_head_digitsOf, hfraction, rfl⟩,
    ?_, rfl, rfl, zeros, hzeros, hright.symm⟩
  rw [← String.toList_inj, htext, literalText, String.toList_ofList, Json.writeNumber, ← hleft]
  simp

/-- Literals without an exponent are told apart by their texts. -/
theorem literalText_inj {l l' : NumberLiteral} (h : l.Positional) (h' : l'.Positional)
    (htext : literalText l = literalText l') : l = l' := by
  have hparse := congrArg (fun t ↦ Json.parse (Json.Source.ofText t.toList)) htext
  simp only [literalText, String.toList_ofList, Json.parse_writeNumber h,
    Json.parse_writeNumber h'] at hparse
  injection hparse with hvalue
  exact Json.number.inj hvalue

/-- The parts that make a literal a spelling of an amount. -/
structure Spells (l : NumberLiteral) (a : Amount) : Prop extends l.Positional where
  /-- The minus sign is that of the amount. -/
  negative_eq : l.negative = decide (a.minorUnits < 0)
  /-- The digits before the point are those of the units. -/
  whole_eq : l.whole = Text.digitsOf (a.minorUnits.natAbs / 100)
  /-- The fraction is that of the written amount, but for zeros at its end. -/
  fraction_eq : ∃ zeros, (∀ c ∈ zeros, c = '0') ∧
    l.fraction ++ zeros = Text.padded 2 (a.minorUnits.natAbs % 100)

/-- The literal of a spelling spells the amount. -/
theorem Spelled.spells {l : NumberLiteral} (hl : l.Positional) (h : Spelled a (literalText l)) :
    Spells l a := by
  obtain ⟨l', hl', htext, hnegative, hwhole, hfraction⟩ := h.exists_literal
  obtain rfl := literalText_inj hl hl' htext
  exact ⟨hl, hnegative, hwhole, hfraction⟩

namespace Spells

variable {l : NumberLiteral}

/-- A spelling denotes the amount. -/
theorem size_eq (h : Spells l a) : l.size = a.minorUnits.natAbs / 100 := by
  obtain ⟨zeros, hzeros, hfraction⟩ := h.fraction_eq
  have hlength : (Text.padded 2 (a.minorUnits.natAbs % 100)).length = 2 :=
    Text.length_padded_of_lt (by decide) (Nat.mod_lt _ (by decide))
  have hsplit : a.minorUnits.natAbs =
      a.minorUnits.natAbs / 100 * 100 + a.minorUnits.natAbs % 100 := by omega
  rw [NumberLiteral.size, ← Text.denoted_append_zeros _ _ hzeros, hfraction, h.whole_eq,
    Text.denoted, hlength, Text.ofDigits_padded, Text.ofDigits_digitsOf]
  conv_rhs => rw [hsplit]
  push_cast
  ring

/-- What spells an amount denotes it. -/
theorem denotes_eq (h : Spells l a) : 100 * l.denotes = a.minorUnits := by
  rw [NumberLiteral.denotes, h.size_eq, h.negative_eq, Nat.cast_natAbs]
  by_cases hsign : a.minorUnits < 0
  · rw [if_pos (decide_eq_true hsign), abs_of_neg hsign]
    push_cast
    ring
  · rw [if_neg (by simpa using hsign), abs_of_nonneg (not_lt.1 hsign)]
    ring

/-- The digits of a spelling make no larger number than those of the amount's text. -/
theorem ofDigits_le (h : Spells l a) :
    Text.ofDigits (l.whole ++ l.fraction) ≤ a.minorUnits.natAbs ∧ l.fraction.length ≤ 2 := by
  obtain ⟨zeros, -, hfraction⟩ := h.fraction_eq
  have hlength : (l.fraction ++ zeros).length = 2 := by
    rw [hfraction]
    exact Text.length_padded_of_lt (by decide) (Nat.mod_lt _ (by decide))
  have hall : Text.ofDigits (l.whole ++ l.fraction ++ zeros) = a.minorUnits.natAbs := by
    rw [List.append_assoc, hfraction, h.whole_eq, Text.ofDigits_append, Text.ofDigits_digitsOf,
      Text.ofDigits_padded, Text.length_padded_of_lt (by decide) (Nat.mod_lt _ (by decide))]
    omega
  rw [List.length_append] at hlength
  have hpow : 0 < 10 ^ zeros.length := by positivity
  refine ⟨?_, by omega⟩
  rw [← hall, Text.ofDigits_append (l.whole ++ l.fraction)]
  exact (Nat.le_mul_of_pos_right _ hpow).trans (Nat.le_add_right ..)

/-- Without a fraction a spelling is the integer of the amount's units. -/
theorem value_of_whole (h : Spells l a) (hlarge : a.minorUnits.natAbs ≤ largest.minorUnits.natAbs)
    (hfraction : l.fraction = []) : ∃ n : ℤ, l.value = .integer n ∧ n * 100 = a.minorUnits := by
  have hunits : a.minorUnits.natAbs % 100 = 0 := by
    obtain ⟨zeros, hzeros, hcents⟩ := h.fraction_eq
    rw [hfraction, List.nil_append] at hcents
    rw [← Text.ofDigits_padded 2 (a.minorUnits.natAbs % 100), ← hcents,
      Text.ofDigits_of_zeros hzeros]
  have hnumber : Nat.ofDigitChars 10 l.whole 0 = a.minorUnits.natAbs / 100 := by
    rw [h.whole_eq]
    exact Text.ofDigits_digitsOf _
  have hbound : largest.minorUnits.natAbs = 999999999999 := rfl
  rw [hbound] at hlarge
  rw [NumberLiteral.value, if_pos ⟨hfraction, h.exponent_eq⟩]
  simp only [hnumber, h.negative_eq, decide_eq_true_eq, NumberLiteral.wordBound]
  split
  · rw [if_pos (by omega)]
    exact ⟨_, rfl, by omega⟩
  · rw [if_pos (by omega)]
    exact ⟨_, rfl, by omega⟩

/-- With a fraction it is a floating-point number of which the shortest decimal is the amount. -/
theorem value_of_fraction (h : Spells l a)
    (hlarge : a.minorUnits.natAbs ≤ largest.minorUnits.natAbs) (hfraction : l.fraction ≠ []) :
    ∃ x, l.value = .double l.negative x ∧ (x.shortest .up).value = l.size := by
  obtain ⟨hdigits, hplaces⟩ := h.ofDigits_le
  have hbound : largest.minorUnits.natAbs = 999999999999 := rfl
  rw [hbound] at hlarge
  obtain ⟨x, hx, hrounded⟩ := NumberLiteral.toDouble_of_lt h.toPositional
    (lt_of_le_of_lt (hdigits.trans hlarge) (by decide)) (List.length_pos_iff.2 hfraction)
    (hplaces.trans (by decide))
  refine ⟨x, by rw [NumberLiteral.value, if_neg fun hw ↦ hfraction hw.1, hx], ?_⟩
  have hsize : l.size = a.minorUnits.natAbs * 10 ^ (-2 : ℤ) := by
    rw [h.size_eq]
    norm_num [zpow_neg]
    ring
  rw [hsize] at hrounded ⊢
  exact hrounded.shortest_eq (lt_of_le_of_lt hlarge (by decide)) (by decide)

/-- **A spelling is decoded as the amount.** -/
theorem toAmount_eq_ok (h : Spells l a)
    (hlarge : a.minorUnits.natAbs ≤ largest.minorUnits.natAbs) :
    Json.toAmount (.number l) = .ok a := by
  by_cases hfraction : l.fraction = []
  · obtain ⟨n, hn, hunits⟩ := h.value_of_whole hlarge hfraction
    rw [Json.toAmount, hn]
    simp only [ofUnits, hunits, ofMinorUnits?_self]
    rfl
  · obtain ⟨x, hx, hshortest⟩ := h.value_of_fraction hlarge hfraction
    have hread : parse (Json.doubleText l.negative x) = .ok a := by
      refine parse_doubleText_eq_ok_iff.2 ⟨?_, ?_⟩
      · have hbound : largest.minorUnits.natAbs = 999999999999 := rfl
        rw [hbound] at hlarge
        have hcast : (a.minorUnits.natAbs : ℚ) ≤ 999999999999 := by exact_mod_cast hlarge
        rw [hshortest, h.size_eq, div_lt_iff₀ (by norm_num)]
        exact hcast.trans_lt (by norm_num)
      · rw [hshortest, ← h.denotes_eq, NumberLiteral.denotes]
        cases l.negative <;> simp [Sign.ofNegative, Sign.factor]
    rw [Json.toAmount, hx]
    simp only [hread]
    rfl

end Spells

/-- The string of an amount's text is decoded as the amount. -/
theorem decodeText_string (hlarge : a.minorUnits.natAbs ≤ largest.minorUnits.natAbs) :
    Json.decodeText Json.toAmount (Json.ofText a.text).render = .ok a := by
  have hbound : a.minorUnits.natAbs < readBound := lt_of_le_of_lt hlarge (by decide)
  rw [Json.decodeText_render rfl, Json.ofText, Json.toAmount, parse_text, if_pos hbound]
  rfl

/-- And so are its spellings as a number. -/
theorem decodeText_spelled (h : Spelled a text)
    (hlarge : a.minorUnits.natAbs ≤ largest.minorUnits.natAbs) :
    Json.decodeText Json.toAmount text = .ok a := by
  obtain ⟨l, hl, htext, hnegative, hwhole, hfraction⟩ := h.exists_literal
  have hspells : Spells l a := ⟨hl, hnegative, hwhole, hfraction⟩
  rw [htext, decodeText_literal hl, hspells.toAmount_eq_ok hlarge]

end

end ContributionRegistry.Amount
