import ContributionRegistry.Amount

/-!
# Amounts and their texts

Every amount is written, but not every written amount is read: reading takes at most sixteen digits
before the point, and the 64 bits of an amount hold up to seventeen. `Amount.readBound` is where the
two part. Below it a written amount is read as itself, from it on it is refused
(`Amount.parse_text`), and whatever text is read as an amount, the amount is below it
(`Amount.natAbs_lt_readBound`).

The amounts of contributions are far below the bound (`Amount.Payable`), so contributions survive
being written, which the tables and the cache rely on. The steps of reading are taken one after
another: the sign is that of the writing, the whole part is cut at the one point there is, and the
fraction has two digits.
-/

namespace ContributionRegistry.Amount

/-- The first number of minor units that is written with more than sixteen digits before the
point. -/
def readBound : Nat := 1000000000000000000

/-! ### The parts of a written amount -/

theorem splitSign_of_isDigit {c : Char} (h : c.isDigit = true) (rest : List Char) :
    splitSign (c :: rest) = (false, c :: rest) := by
  unfold splitSign
  split
  · next he => cases he; cases h
  · next he => cases he; cases h
  · rfl

/-- There is no point among digits. -/
theorem point_not_mem {digits : List Char} (h : Text.allDigits digits = true) : '.' ∉ digits :=
  fun hpoint ↦ absurd (List.all_eq_true.1 h '.' hpoint) (by decide)

/-- What comes before the first point is split from what follows it. -/
theorem splitPoint_of_not_mem {before : List Char} (h : '.' ∉ before) (after : List Char) :
    splitPoint (before ++ '.' :: after) = (before, after) := by
  induction before with
  | nil => rfl
  | cons c before ih =>
    rw [List.mem_cons, not_or] at h
    rw [List.cons_append, splitPoint, if_neg (Ne.symm h.1), ih h.2]

theorem utf8Size_of_isDigit {c : Char} (h : c.isDigit = true) : c.utf8Size = 1 := by
  have hc : c.toNat ≤ '9'.toNat := (Char.isDigit_iff_toNat.1 h).2
  exact Char.utf8Size_eq_one_iff.2 (Nat.le_trans hc (by decide))

/-- Two digits are a fraction of their own, and denote as many hundredths. -/
theorem cutFraction_of_length_two {cents : List Char} (hd : Text.allDigits cents = true)
    (hl : cents.length = 2) :
    cutFraction cents = some (cents, []) ∧ hundredths cents = Text.ofDigits cents := by
  match cents, hl with
  | [c, d], _ =>
    simp only [Text.allDigits, List.all_cons, List.all_nil, Bool.and_true, Bool.and_eq_true] at hd
    have hc := utf8Size_of_isDigit hd.1
    have hd := utf8Size_of_isDigit hd.2
    exact ⟨by simp [cutFraction, hc, hd], rfl⟩

/-- A written amount has no blanks. -/
theorem not_blank_of_mem_spell {n : Int} : ∀ c ∈ spell n, Text.isBlank c = false := by
  intro c hc
  have hdigits {text : List Char} (h : Text.allDigits text = true) (hc : c ∈ text) :
      Text.isBlank c = false :=
    Text.not_blank_of_isDigit (List.all_eq_true.1 h c hc)
  simp only [spell, List.mem_append, List.mem_cons] at hc
  rcases hc with (hsign | hwhole) | rfl | hcents
  · split at hsign
    · rw [List.mem_singleton.1 hsign]
      rfl
    · cases hsign
  · exact hdigits (Text.allDigits_digitsOf _) hwhole
  · rfl
  · exact hdigits (Text.allDigits_padded _ _) hcents

/-- The sign of a written amount is split off. -/
theorem splitSign_spell (n : Int) :
    splitSign (spell n) = (decide (n < 0),
      Text.digitsOf (n.natAbs / 100) ++ '.' :: Text.padded 2 (n.natAbs % 100)) := by
  by_cases hn : n < 0
  · simp [spell, hn, splitSign]
  · obtain ⟨c, rest, hc⟩ := List.exists_cons_of_ne_nil (Text.digitsOf_ne_nil (n.natAbs / 100))
    have hdigit : c.isDigit = true :=
      List.all_eq_true.1 (Text.allDigits_digitsOf (n.natAbs / 100)) c (by simp [hc])
    simp [spell, hn, hc, splitSign_of_isDigit hdigit]

/-! ### Reading back -/

/-- **A written amount is read as itself exactly below `readBound`**, and refused from it on. -/
theorem parse_text (a : Amount) :
    parse a.text = if a.minorUnits.natAbs < readBound then .ok a else .refuse ⟨a.text⟩ := by
  have hsign : (if a.minorUnits < 0 then -(a.minorUnits.natAbs : Int) else a.minorUnits.natAbs) =
      a.minorUnits := by omega
  have hcents := cutFraction_of_length_two (Text.allDigits_padded 2 (a.minorUnits.natAbs % 100))
    (Text.length_padded_of_lt (by decide) (Nat.mod_lt _ (by decide)))
  -- of all that is asked of the parts, only the number of digits before the point can fail
  have hwhole : wellFormed (Text.digitsOf (a.minorUnits.natAbs / 100))
      (Text.padded 2 (a.minorUnits.natAbs % 100)) [] = true ↔
        a.minorUnits.natAbs < readBound := by
    have hlength := @Text.length_digitsOf_le_iff (a.minorUnits.natAbs / 100) 16 (by decide)
    simp [wellFormed, Text.digitsOf_ne_nil, Text.allDigits_digitsOf, Text.allDigits_padded,
      hlength, readBound]
    omega
  have hnumber : Text.ofDigits (Text.digitsOf (a.minorUnits.natAbs / 100)) * 100 +
      hundredths (Text.padded 2 (a.minorUnits.natAbs % 100)) = a.minorUnits.natAbs := by
    rw [hcents.2, Text.ofDigits_digitsOf, Text.ofDigits_padded]
    omega
  rw [parse, text, String.toList_ofList, Text.trim_eq_self not_blank_of_mem_spell, splitSign_spell]
  simp only [splitPoint_of_not_mem (point_not_mem (Text.allDigits_digitsOf _)), hcents.1, hwhole,
    hnumber, decide_eq_true_eq, hsign, ofMinorUnits?_self]

/-- What is cut off a fraction has at most two characters. -/
theorem length_le_two_of_cutFraction {fraction cents zeros : List Char}
    (h : cutFraction fraction = some (cents, zeros)) : cents.length ≤ 2 := by
  unfold cutFraction at h
  split at h
  · cases h; decide
  · split at h <;> cases h
    exact Nat.le_succ 1
  · split at h
    · cases h; exact Nat.le_succ 1
    · split at h <;> cases h
      exact Nat.le_refl 2

theorem hundredths_lt {cents : List Char} (hd : Text.allDigits cents = true)
    (hl : cents.length ≤ 2) : hundredths cents < 100 := by
  have hlt := Text.ofDigits_lt hd
  match cents, hl with
  | [], _ => decide
  | [c], _ =>
    have : Text.ofDigits [c] < 10 := hlt
    simp only [hundredths]
    omega
  | [c, d], _ => exact hlt

theorem minorUnits_of_ofMinorUnits? {n : Int} {a : Amount} (h : ofMinorUnits? n = some a) :
    a.minorUnits = n := by
  unfold ofMinorUnits? at h
  split at h
  · cases h; rfl
  · cases h

/-- **Whatever text is read as an amount**, the amount is below `readBound`. -/
theorem natAbs_lt_readBound {raw : String} {a : Amount} (h : parse raw = .ok a) :
    a.minorUnits.natAbs < readBound := by
  unfold parse at h
  simp only at h
  generalize splitPoint (splitSign (Text.trim raw.toList)).2 = parts at h
  split at h
  · cases h
  · next cents zeros hcut =>
    split at h
    · next hformed =>
      simp only [wellFormed, Bool.and_eq_true, decide_eq_true_eq] at hformed
      obtain ⟨⟨⟨⟨-, hlength⟩, hwhole⟩, hcents⟩, -⟩ := hformed
      have hsmall := hundredths_lt hcents (length_le_two_of_cutFraction hcut)
      have hlarge : Text.ofDigits parts.1 < Nat.pow 10 16 :=
        Nat.lt_of_lt_of_le (Text.ofDigits_lt hwhole) (Nat.pow_le_pow_right (by decide) hlength)
      split at h
      · next hunits =>
        cases h
        rw [minorUnits_of_ofMinorUnits? hunits]
        have : Nat.pow 10 16 = 10000000000000000 := rfl
        simp only [readBound]
        omega
      · cases h
    · cases h

/-! ### Amounts of contributions -/

/-- What a contribution of the registry may be of: nothing at least, and at most ten digits before
the point. -/
def Payable (a : Amount) : Prop := 0 ≤ a.minorUnits ∧ a.minorUnits ≤ largest.minorUnits

instance (a : Amount) : Decidable a.Payable := inferInstanceAs (Decidable (_ ∧ _))

/-- The amounts of contributions can be read again. -/
theorem Payable.lt_readBound {a : Amount} (h : a.Payable) : a.minorUnits.natAbs < readBound := by
  obtain ⟨hnonneg, hle⟩ := h
  have hlargest : largest.minorUnits < readBound := by decide
  omega

end ContributionRegistry.Amount
