import ContributionRegistry.Text.Digits

/-!
# Numerals

A numeral is a run of decimal digits; settings may write a plus in front of one. An unsigned number
is read from just the texts that denote it, if it is not too large (`readNumber_eq_ok_iff`).

A number has many numerals, since zeros may lead it, and one without zeros in front: a run of digits
that no zero leads is how its number is written (`digitsOf_ofDigits`).
-/

namespace ContributionRegistry.Text

/-- A run of digits that stands for a number. -/
structure IsNumeral (digits : List Char) (n : Nat) : Prop where
  /-- There are digits. -/
  ne_nil : digits ≠ []
  /-- There is nothing else. -/
  allDigits : allDigits digits = true
  /-- They denote the number. -/
  value : ofDigits digits = n

/-- A text stands for a number: it is a numeral, perhaps with a plus in front. -/
def Denotes (text : String) (n : Nat) : Prop :=
  ∃ digits, IsNumeral digits n ∧ (text.toList = digits ∨ text.toList = '+' :: digits)

/-! ### Written numbers -/

/-- A number is denoted by the digits that it is written with. -/
theorem isNumeral_digitsOf (n : Nat) : IsNumeral (digitsOf n) n :=
  ⟨digitsOf_ne_nil n, allDigits_digitsOf n, ofDigits_digitsOf n⟩

/-- The only written number that a zero leads is zero. -/
theorem zero_of_head_digitsOf {n : Nat} (h : (digitsOf n).head? = some '0') :
    digitsOf n = ['0'] := by
  obtain ⟨rest, hrest⟩ := List.head?_eq_some_iff.1 h
  have hdigits := allDigits_digitsOf n
  have hnumber := ofDigits_digitsOf n
  rw [hrest, allDigits, List.all_cons, Bool.and_eq_true] at hdigits
  rw [hrest, ofDigits_cons, Nat.sub_self, Nat.mul_zero, Nat.zero_add] at hnumber
  have hlt := ofDigits_lt hdigits.2
  rcases Nat.eq_zero_or_pos rest.length with hlength | hlength
  · rw [hrest, List.eq_nil_of_length_eq_zero hlength]
  · rw [hnumber] at hlt
    have := (length_digitsOf_le_iff hlength).2 hlt
    rw [hrest, List.length_cons] at this
    omega

/-- **A run of digits that no zero leads is how its number is written.** -/
theorem digitsOf_ofDigits {digits : List Char} (h : allDigits digits = true) (hne : digits ≠ [])
    (hlead : digits.head? = some '0' → digits.length = 1) :
    digitsOf (ofDigits digits) = digits := by
  obtain ⟨c, rest, rfl⟩ := List.exists_cons_of_ne_nil hne
  have hlt : ofDigits (c :: rest) < Nat.pow 10 (rest.length + 1) := ofDigits_lt h
  have hle := (length_digitsOf_le_iff (Nat.succ_pos _)).2 hlt
  refine eq_of_ofDigits_eq (allDigits_digitsOf _) h (Nat.le_antisymm hle ?_) (ofDigits_digitsOf _)
  rcases Nat.eq_zero_or_pos rest.length with hlength | hlength
  · rw [List.length_cons, hlength]
    exact List.length_pos_iff.2 (digitsOf_ne_nil _)
  · -- the first digit counts, so the number is not shorter than its run of digits
    have hc : c ≠ '0' := by
      rintro rfl
      exact absurd (hlead rfl) (by rw [List.length_cons]; omega)
    have hdigit : '0'.toNat < c.toNat := by
      rw [allDigits, List.all_cons, Bool.and_eq_true] at h
      exact Nat.lt_of_le_of_ne (Char.isDigit_iff_toNat.1 h.1).1 (mt Char.toNat_inj.1 hc.symm)
    have hge : Nat.pow 10 rest.length ≤ ofDigits (c :: rest) := by
      rw [ofDigits_cons]
      exact Nat.le_add_right_of_le (Nat.le_mul_of_pos_right _ (Nat.sub_pos_of_lt hdigit))
    exact Nat.lt_of_not_le (mt (length_digitsOf_le_iff hlength).1 (Nat.not_lt.2 hge))

/-! ### Reading numbers -/

section

variable {largest sofar n : Nat} {digits : List Char} {text : String}

/-- Digits of a number that is not too large are read as that number. -/
theorem readDigits_eq (hdigits : allDigits digits = true)
    (hle : Nat.ofDigitChars 10 digits sofar ≤ largest) :
    readDigits largest sofar digits = .ok (Nat.ofDigitChars 10 digits sofar) := by
  induction digits generalizing sofar with
  | nil => rfl
  | cons c digits ih =>
    rw [allDigits, List.all_cons, Bool.and_eq_true] at hdigits
    rw [Nat.ofDigitChars_cons] at hle ⊢
    -- the number grows with every digit
    have hnext : 10 * sofar + (c.toNat - '0'.toNat) ≤ largest := by
      refine Nat.le_trans ?_ hle
      rw [Nat.ofDigitChars_eq_ofDigitChars_zero]
      exact Nat.le_trans (Nat.le_mul_of_pos_left _ (Nat.pow_pos (by decide))) (Nat.le_add_right _ _)
    rw [readDigits, if_pos hdigits.1]
    show (if 10 * sofar + (c.toNat - '0'.toNat) ≤ largest then _ else _) = _
    rw [if_pos hnext]
    exact ih hdigits.2 hle

/-- What is read is digits of a number that is not too large. -/
theorem digits_of_readDigits (hsofar : sofar ≤ largest)
    (h : readDigits largest sofar digits = .ok n) :
    allDigits digits = true ∧ Nat.ofDigitChars 10 digits sofar = n ∧ n ≤ largest := by
  induction digits generalizing sofar with
  | nil =>
    cases h
    exact ⟨rfl, rfl, hsofar⟩
  | cons c digits ih =>
    rw [readDigits] at h
    split at h
    · next hc =>
      dsimp only at h
      split at h
      · next hnext =>
        obtain ⟨hdigits, hvalue, hle⟩ := ih hnext h
        exact ⟨by rw [allDigits, List.all_cons, hc, ← allDigits, hdigits]; rfl, hvalue, hle⟩
      · cases h
    · cases h

/-- A plus has to have something behind it. -/
theorem readNumber_of_cons {c : Char} {rest : List Char} (hc : c ≠ '+')
    (htext : text.toList = c :: rest ∨ text.toList = '+' :: c :: rest) :
    readNumber largest text = readDigits largest 0 (c :: rest) := by
  rw [readNumber]
  rcases htext with htext | htext <;> rw [htext]
  · split
    · next heq => cases heq
    · next heq =>
      cases heq
      exact absurd rfl hc
    · rfl
  · rfl

/-- **A number is read from just the texts that denote it**, if it is not too large. -/
theorem readNumber_eq_ok_iff :
    readNumber largest text = .ok n ↔ Denotes text n ∧ n ≤ largest := by
  constructor
  · intro h
    unfold readNumber at h
    split at h
    · cases h
    · next htext =>
      obtain ⟨hdigits, hvalue, hle⟩ := digits_of_readDigits (Nat.zero_le _) h
      exact ⟨⟨_ :: _, ⟨List.cons_ne_nil _ _, hdigits, hvalue⟩, .inr htext⟩, hle⟩
    · next hempty _ =>
      obtain ⟨hdigits, hvalue, hle⟩ := digits_of_readDigits (Nat.zero_le _) h
      exact ⟨⟨_, ⟨hempty, hdigits, hvalue⟩, .inl rfl⟩, hle⟩
  · rintro ⟨⟨digits, ⟨hne, hdigits, rfl⟩, htext⟩, hle⟩
    obtain ⟨c, rest, rfl⟩ := List.exists_cons_of_ne_nil hne
    have hc : c ≠ '+' := by
      rintro rfl
      exact absurd hdigits (by simp [allDigits, Char.isDigit])
    rw [readNumber_of_cons hc htext]
    exact readDigits_eq hdigits hle

/-- A text stands for one number at most. -/
theorem Denotes.unique {m : Nat} (hm : Denotes text m) (hn : Denotes text n) : m = n := by
  have hread := readNumber_eq_ok_iff.2 ⟨hm, Nat.le_max_left m n⟩
  rw [readNumber_eq_ok_iff.2 ⟨hn, Nat.le_max_right m n⟩] at hread
  exact (Except.ok.inj hread).symm

/-- A number is read as it was written. -/
theorem readNumber_toString (h : n ≤ largest) : readNumber largest (toString n) = .ok n :=
  readNumber_eq_ok_iff.2 ⟨⟨_, isNumeral_digitsOf n, .inl String.toList_ofList⟩, h⟩

end

end ContributionRegistry.Text
