import ContributionRegistry.Proofs.Amount.Rereading
import ContributionRegistry.Proofs.Text.Fractions
import Mathlib.Data.List.TakeWhile

/-!
# What is read as an amount

A numeral is a decimal number as it is written: one sign or none, digits, and maybe a point with
digits after it. Not every numeral is read as an amount, but only numerals are, blanks around them
aside, and an amount is as many hundredths as the numeral denotes (`parse_eq_ok_iff`). All the
arithmetic is done within 64 bits: sixteen digits before the point leave room for the hundredths.

A text is taken apart at its sign and its first point and the fraction is cut after two bytes. Of a
numeral this gives its own parts (`parse_numeral`), and where it gives parts that are in order, the
text was that of a numeral (`exists_numeral_of_parse`).

* `Numeral.Digital` says that a numeral has digits where it should have them, and at least one
  before the point;
* `Numeral.Admitted` says which numerals are read: those of at most sixteen digits before the point
  and with nothing but zeros after the second place;
* `Numeral.StandsIn` says that a text is a numeral with blanks around it.
-/

namespace ContributionRegistry

namespace Text

/-! ### Blanks at the ends -/

/-- A text is its trimmed form with blanks around it. -/
theorem exists_blanks (text : List Char) : ∃ before after : List Char,
    (∀ c ∈ before ++ after, isBlank c = true) ∧ text = before ++ trim text ++ after := by
  set rest := trimStart text with hrest
  refine ⟨text.takeWhile isBlank, (rest.reverse.takeWhile isBlank).reverse, fun c hc ↦ ?_, ?_⟩
  · rw [List.mem_append, List.mem_reverse] at hc
    exact hc.elim List.mem_takeWhile_imp List.mem_takeWhile_imp
  · have hend : rest = trim text ++ (rest.reverse.takeWhile isBlank).reverse := by
      rw [trim, trimEnd, ← hrest, ← List.reverse_append, List.takeWhile_append_dropWhile,
        List.reverse_reverse]
    rw [List.append_assoc, ← hend, hrest, trimStart, List.takeWhile_append_dropWhile]

/-- Blanks around a text without any are trimmed. -/
theorem trim_blanks {before text after : List Char} (htext : ∀ c ∈ text, isBlank c = false)
    (hblank : ∀ c ∈ before ++ after, isBlank c = true) : trim (before ++ text ++ after) = text := by
  have hbefore : ∀ c ∈ before, isBlank c = true :=
    fun c hc ↦ hblank c (List.mem_append_left _ hc)
  have hafter : ∀ c ∈ after, isBlank c = true :=
    fun c hc ↦ hblank c (List.mem_append_right _ hc)
  rw [trim, trimStart, List.append_assoc, List.dropWhile_append_of_pos hbefore]
  cases text with
  | nil => rw [List.nil_append, List.dropWhile_eq_nil_iff.2 hafter]; rfl
  | cons c text =>
    have hback : ∀ d ∈ (c :: text).reverse, isBlank d = false :=
      fun d hd ↦ htext d (List.mem_reverse.1 hd)
    rw [List.cons_append, List.dropWhile_cons_of_neg (by simp [htext c List.mem_cons_self]),
      trimEnd, ← List.cons_append, List.reverse_append,
      List.dropWhile_append_of_pos (by simpa using hafter), dropWhile_isBlank_eq_self hback,
      List.reverse_reverse]

end Text

namespace Amount

/-! ### Numerals -/

/-- The sign in front of a number. -/
inductive Sign where
  | none
  | plus
  | minus
  deriving DecidableEq, Repr

/-- A sign as it is written. -/
def Sign.text : Sign → List Char
  | .none => []
  | .plus => ['+']
  | .minus => ['-']

/-- What a sign does to the number after it. -/
def Sign.factor : Sign → ℚ
  | .minus => -1
  | .none | .plus => 1

/-- A decimal number as it is written. The fraction is there if the point is. -/
structure Numeral where
  /-- The sign, if there is one. -/
  sign : Sign
  /-- What stands before the point. -/
  whole : List Char
  /-- What stands behind the point, if there is a point. -/
  fraction : Option (List Char)
  deriving DecidableEq, Repr

namespace Numeral

/-- The digits after the point. -/
def places (n : Numeral) : List Char := n.fraction.getD []

/-- A fraction with its point. -/
def pointed : Option (List Char) → List Char
  | none => []
  | some digits => '.' :: digits

/-- A numeral as it is written. -/
def text (n : Numeral) : List Char := n.sign.text ++ n.whole ++ pointed n.fraction

/-- The number that a numeral denotes. -/
def value (n : Numeral) : ℚ := n.sign.factor * Text.denoted n.whole n.places

/-- Digits stand where digits must, and there is one before the point. -/
structure Digital (n : Numeral) : Prop where
  /-- There is something before the point. -/
  whole_ne_nil : n.whole ≠ []
  /-- What is before the point are digits. -/
  whole_digits : Text.allDigits n.whole = true
  /-- What is behind the point are digits. -/
  places_digits : Text.allDigits n.places = true

/-- At most sixteen digits stand before the point, and after the second one behind it only zeros. -/
structure Admitted (n : Numeral) : Prop extends n.Digital where
  /-- There are at most sixteen digits before the point. -/
  whole_length_le : n.whole.length ≤ 16
  /-- After the second place there are zeros only. -/
  zeros : ∀ c ∈ n.places.drop 2, c = '0'

end Numeral

/-! ### Signs and points -/

/-- The sign is split off, and nothing more. -/
theorem splitSign_of_digits (s : Sign) {number : List Char}
    (h : ∃ c rest, number = c :: rest ∧ c.isDigit = true) :
    splitSign (s.text ++ number) = (decide (s = .minus), number) := by
  obtain ⟨c, rest, rfl, hc⟩ := h
  cases s with
  | none => exact splitSign_of_isDigit hc rest
  | plus => rfl
  | minus => rfl

/-- What is split off is a sign, or nothing. -/
theorem exists_sign (text : List Char) : ∃ s : Sign,
    text = s.text ++ (splitSign text).2 ∧ (splitSign text).1 = decide (s = .minus) := by
  unfold splitSign
  split
  · exact ⟨.minus, rfl, rfl⟩
  · exact ⟨.plus, rfl, rfl⟩
  · exact ⟨.none, rfl, rfl⟩

/-- Without a point there is nothing to be split off. -/
theorem splitPoint_self {text : List Char} (h : '.' ∉ text) : splitPoint text = (text, []) := by
  induction text with
  | nil => rfl
  | cons c text ih =>
    rw [List.mem_cons, not_or] at h
    rw [splitPoint, if_neg (Ne.symm h.1), ih h.2]

/-- Digits are split from what follows their point. -/
theorem splitPoint_pointed {whole : List Char} (h : Text.allDigits whole = true)
    (fraction : Option (List Char)) :
    splitPoint (whole ++ Numeral.pointed fraction) = (whole, fraction.getD []) := by
  cases fraction with
  | none => rw [Numeral.pointed, List.append_nil, splitPoint_self (point_not_mem h)]; rfl
  | some digits => exact splitPoint_of_not_mem (point_not_mem h) digits

/-- What is split off is a fraction with its point, or nothing. -/
theorem exists_fraction (text : List Char) : ∃ fraction : Option (List Char),
    text = (splitPoint text).1 ++ Numeral.pointed fraction ∧
      (splitPoint text).2 = fraction.getD [] := by
  induction text with
  | nil => exact ⟨none, rfl, rfl⟩
  | cons c text ih =>
    rw [splitPoint]
    split
    · next hc => exact ⟨some text, by rw [hc]; rfl, rfl⟩
    · obtain ⟨fraction, htext, hfraction⟩ := ih
      exact ⟨fraction, congrArg (c :: ·) htext, hfraction⟩

/-! ### Fractions -/

/-- Digits are cut after the second one. -/
theorem cutFraction_of_digits {fraction : List Char} (h : Text.allDigits fraction = true) :
    cutFraction fraction = some (fraction.take 2, fraction.drop 2) := by
  match fraction with
  | [] => rfl
  | [c] =>
    simp only [Text.allDigits, List.all_cons, List.all_nil, Bool.and_true] at h
    simp [cutFraction, utf8Size_of_isDigit h]
  | c :: d :: rest =>
    simp only [Text.allDigits, List.all_cons, Bool.and_eq_true] at h
    simp [cutFraction, utf8Size_of_isDigit h.1, utf8Size_of_isDigit h.2.1]

/-- Where a cut leaves digits and zeros, digits were cut. -/
theorem digits_of_cutFraction {fraction cents zeros : List Char}
    (hcut : cutFraction fraction = some (cents, zeros)) (hcents : Text.allDigits cents = true)
    (hzeros : ∀ c ∈ zeros, c = '0') : Text.allDigits fraction = true := by
  have hparts : fraction = cents ++ zeros := by
    unfold cutFraction at hcut
    split at hcut
    · cases hcut; rfl
    · split at hcut <;> cases hcut
      rfl
    · split at hcut
      · cases hcut; rfl
      · split at hcut <;> cases hcut
        rfl
  rw [hparts, Text.allDigits_append]
  exact ⟨hcents, Text.allDigits_of_zeros hzeros⟩

/-- Where only zeros follow them, the first two digits of a fraction denote its hundredths. -/
theorem hundredths_take {fraction : List Char} (h : ∀ c ∈ fraction.drop 2, c = '0') :
    (hundredths (fraction.take 2) : ℚ) =
      100 * (Text.ofDigits fraction / 10 ^ fraction.length) := by
  match fraction with
  | [] => simp [hundredths, Text.ofDigits]
  | [c] =>
    simp only [hundredths, List.take_succ_cons, List.take_nil, List.length_singleton]
    push_cast
    ring
  | c :: d :: zeros =>
    have hzeros : Text.ofDigits zeros = 0 := Text.ofDigits_of_zeros h
    have hfraction : Text.ofDigits (c :: d :: zeros) =
        10 ^ zeros.length * Text.ofDigits [c, d] := by
      rw [Text.ofDigits_cons, Text.ofDigits_cons, Text.ofDigits_cons, Text.ofDigits_cons, hzeros]
      simp only [Nat.pow_eq, List.length_cons, List.length_nil, Text.ofDigits, Nat.ofDigitChars_nil]
      ring
    show (Text.ofDigits [c, d] : ℚ) = _
    rw [hfraction, List.length_cons, List.length_cons]
    push_cast
    field_simp
    ring

/-! ### Reading numerals -/

section

variable {raw : String} {n : Numeral} {a : Amount}

/-- The minor units of a numeral that is admitted. -/
def Numeral.minorUnits (n : Numeral) : Int :=
  let units : Nat := Text.ofDigits n.whole * 100 + hundredths (n.places.take 2)
  if n.sign = .minus then -(units : Int) else units

/-- They are the hundredths that the numeral denotes, -/
theorem Numeral.Admitted.minorUnits_eq (h : n.Admitted) : (n.minorUnits : ℚ) = 100 * n.value := by
  have hhundredths := hundredths_take h.zeros
  rw [Numeral.minorUnits, Numeral.value, Text.denoted]
  split
  · next hsign =>
    rw [hsign, Sign.factor]
    push_cast
    rw [hhundredths]
    ring
  · next hsign =>
    have hfactor : n.sign.factor = 1 := by
      cases hn : n.sign with
      | minus => exact absurd hn hsign
      | none | plus => rfl
    rw [hfactor]
    push_cast
    rw [hhundredths]
    ring

/-- and 64 bits hold them with room to spare. -/
theorem Numeral.Admitted.natAbs_minorUnits_lt (h : n.Admitted) :
    n.minorUnits.natAbs < readBound := by
  have hwhole : Text.ofDigits n.whole < Nat.pow 10 16 :=
    Nat.lt_of_lt_of_le (Text.ofDigits_lt h.whole_digits)
      (Nat.pow_le_pow_right (by decide) h.whole_length_le)
  have hcents : hundredths (n.places.take 2) < 100 :=
    hundredths_lt (Text.allDigits_take h.places_digits 2) (List.length_take_le 2 n.places)
  have hpow : Nat.pow 10 16 = 10000000000000000 := rfl
  rw [Numeral.minorUnits, readBound]
  split <;> omega

instance (n : Numeral) : Decidable n.Digital :=
  decidable_of_iff (n.whole ≠ [] ∧ Text.allDigits n.whole = true ∧ Text.allDigits n.places = true)
    ⟨fun h ↦ ⟨h.1, h.2.1, h.2.2⟩, fun h ↦ ⟨h.whole_ne_nil, h.whole_digits, h.places_digits⟩⟩

instance (n : Numeral) : Decidable n.Admitted :=
  decidable_of_iff (n.Digital ∧ n.whole.length ≤ 16 ∧ (n.places.drop 2).all (· == '0') = true)
    ⟨fun h ↦ ⟨h.1, h.2.1, fun c hc ↦ eq_of_beq (List.all_eq_true.1 h.2.2 c hc)⟩,
      fun h ↦ ⟨h.toDigital, h.whole_length_le,
        List.all_eq_true.2 fun c hc ↦ beq_iff_eq.2 (h.zeros c hc)⟩⟩

/-- The parts of a numeral are in order just if it is admitted. -/
theorem Numeral.Digital.wellFormed_iff (h : n.Digital) :
    wellFormed n.whole (n.places.take 2) (n.places.drop 2) = true ↔ n.Admitted := by
  simp only [wellFormed, h.whole_digits, Text.allDigits_take h.places_digits 2, Bool.and_eq_true,
    Bool.not_eq_true', List.isEmpty_eq_false_iff, decide_eq_true_eq, and_true, List.all_eq_true,
    beq_iff_eq]
  exact ⟨fun hparts ↦ ⟨h, hparts.1.2, hparts.2⟩,
    fun hn ↦ ⟨⟨h.whole_ne_nil, hn.whole_length_le⟩, hn.zeros⟩⟩

/-- **What reading makes of a numeral**: the amount that it denotes if it is admitted, and a
refusal otherwise. -/
theorem parse_numeral (hd : n.Digital) (ht : Text.trim raw.toList = n.text) :
    parse raw = if n.Admitted then
      (match ofMinorUnits? n.minorUnits with | some a => .ok a | none => .refuse ⟨raw⟩)
      else .refuse ⟨raw⟩ := by
  have hfirst : ∃ c rest, n.whole ++ Numeral.pointed n.fraction = c :: rest ∧ c.isDigit = true := by
    obtain ⟨c, rest, hc⟩ := List.exists_cons_of_ne_nil hd.whole_ne_nil
    refine ⟨c, _, by rw [hc, List.cons_append], ?_⟩
    exact List.all_eq_true.1 hd.whole_digits c (by simp [hc])
  have hsign := splitSign_of_digits n.sign hfirst
  rw [parse, ht, Numeral.text, List.append_assoc, hsign]
  simp only [splitPoint_pointed hd.whole_digits]
  rw [← Numeral.places, cutFraction_of_digits hd.places_digits]
  simp only [hd.wellFormed_iff, decide_eq_true_eq]
  rfl

theorem ofMinorUnits?_eq_some_of_lt {units : Int} (h : units.natAbs < readBound) :
    ∃ a, ofMinorUnits? units = some a ∧ a.minorUnits = units := by
  rw [readBound] at h
  have hfits : -9223372036854775808 ≤ units ∧ units < 9223372036854775808 := by omega
  exact ⟨⟨units, hfits.1, hfits.2⟩, dif_pos hfits, rfl⟩

/-- A numeral that is admitted is read, as the amount that it denotes. -/
theorem parse_of_admitted (h : n.Admitted) (ht : Text.trim raw.toList = n.text) :
    ∃ a, parse raw = .ok a ∧ (a.minorUnits : ℚ) = 100 * n.value := by
  obtain ⟨a, ha, hunits⟩ := ofMinorUnits?_eq_some_of_lt h.natAbs_minorUnits_lt
  refine ⟨a, ?_, by rw [hunits, h.minorUnits_eq]⟩
  rw [parse_numeral h.toDigital ht, if_pos h]
  simp only [ha]

/-- A numeral that is read is one of those that are admitted. -/
theorem admitted_of_parse (hd : n.Digital) (ht : Text.trim raw.toList = n.text)
    (h : parse raw = .ok a) : n.Admitted := by
  by_contra hn
  rw [parse_numeral hd ht, if_neg hn] at h
  cases h

/-- What is read as an amount is a numeral, blanks at the ends aside. -/
theorem exists_numeral_of_parse (h : parse raw = .ok a) :
    ∃ n : Numeral, n.Digital ∧ Text.trim raw.toList = n.text := by
  obtain ⟨sign, hnumber, -⟩ := exists_sign (Text.trim raw.toList)
  obtain ⟨fraction, hparts, hfraction⟩ := exists_fraction (splitSign (Text.trim raw.toList)).2
  unfold parse at h
  simp only at h
  split at h
  · cases h
  · next cents zeros hcut =>
    split at h
    · next hformed =>
      simp only [wellFormed, Bool.and_eq_true, Bool.not_eq_true', List.isEmpty_eq_false_iff,
        List.all_eq_true, beq_iff_eq] at hformed
      obtain ⟨⟨⟨⟨hne, -⟩, hwhole⟩, hcents⟩, hzeros⟩ := hformed
      have hplaces := digits_of_cutFraction hcut hcents hzeros
      rw [hfraction] at hplaces
      refine ⟨⟨sign, (splitPoint (splitSign (Text.trim raw.toList)).2).1, fraction⟩,
        ⟨hne, hwhole, hplaces⟩, ?_⟩
      rw [Numeral.text, List.append_assoc, ← hparts, ← hnumber]
    · cases h

/-- A numeral with blanks around it is read as an amount exactly if it is admitted and denotes the
amount. -/
theorem parse_numeral_eq_ok_iff (hd : n.Digital) (ht : Text.trim raw.toList = n.text) :
    parse raw = .ok a ↔ n.Admitted ∧ (a.minorUnits : ℚ) = 100 * n.value := by
  refine ⟨fun h ↦ ?_, fun ⟨hn, hvalue⟩ ↦ ?_⟩
  · have hn := admitted_of_parse hd ht h
    obtain ⟨b, hb, hvalue⟩ := parse_of_admitted hn ht
    rw [h] at hb
    cases hb
    exact ⟨hn, hvalue⟩
  · obtain ⟨b, hb, hb'⟩ := parse_of_admitted hn ht
    have hunits : b.minorUnits = a.minorUnits := by
      have hcast : (b.minorUnits : ℚ) = a.minorUnits := hb'.trans hvalue.symm
      exact_mod_cast hcast
    rw [hb, eq_of_minorUnits_eq hunits]

/-! ### Blanks around numerals -/

namespace Numeral

/-- The numeral stands in a text, with nothing but blanks around it. -/
def StandsIn (n : Numeral) (raw : String) : Prop :=
  ∃ before after : List Char, (∀ c ∈ before ++ after, Text.isBlank c = true) ∧
    raw.toList = before ++ n.text ++ after

theorem Digital.not_blank_of_mem (h : n.Digital) : ∀ c ∈ n.text, Text.isBlank c = false := by
  have hdigits : ∀ {text : List Char}, Text.allDigits text = true →
      ∀ c ∈ text, Text.isBlank c = false :=
    fun h c hc ↦ Text.not_blank_of_isDigit (List.all_eq_true.1 h c hc)
  intro c hc
  rw [text, List.mem_append, List.mem_append] at hc
  rcases hc with (hsign | hwhole) | hpoint
  · cases hn : n.sign with
    | none => simp [hn, Sign.text] at hsign
    | plus | minus =>
      rw [hn, Sign.text, List.mem_singleton] at hsign
      rw [hsign]
      rfl
  · exact hdigits h.whole_digits c hwhole
  · cases hn : n.fraction with
    | none => simp [hn, pointed] at hpoint
    | some digits =>
      have hplaces : n.places = digits := by rw [places, hn]; rfl
      rw [hn, pointed, List.mem_cons] at hpoint
      rcases hpoint with rfl | hdigit
      · rfl
      · exact hdigits (hplaces ▸ h.places_digits) c hdigit

/-- A numeral stands in a text just if it is what the text is trimmed to. -/
theorem Digital.standsIn_iff (h : n.Digital) : n.StandsIn raw ↔ Text.trim raw.toList = n.text := by
  constructor
  · rintro ⟨before, after, hblank, hraw⟩
    rw [hraw, Text.trim_blanks h.not_blank_of_mem hblank]
  · intro htrim
    obtain ⟨before, after, hblank, hraw⟩ := Text.exists_blanks raw.toList
    exact ⟨before, after, hblank, htrim ▸ hraw⟩

end Numeral

/-! ### The grammar of amounts -/

/-- **What is read as an amount, and as which one**: a text is read as an amount exactly if nothing
but blanks stand around a numeral in it, one of one to sixteen digits before the point and nothing
but zeros after the second digit behind it, and if the amount is as many hundredths as the numeral
denotes. All of these numerals are read, none is too large for an amount; and an amount that was
read is read again from its own text. -/
theorem parse_eq_ok_iff :
    (∀ (raw : String) (a : Amount), parse raw = .ok a ↔
      ∃ n : Numeral, n.Admitted ∧ n.StandsIn raw ∧ (a.minorUnits : ℚ) = 100 * n.value) ∧
    (∀ (raw : String) (n : Numeral), n.Admitted → n.StandsIn raw → ∃ a, parse raw = .ok a) ∧
    (∀ (raw : String) (a : Amount), parse raw = .ok a → parse a.text = .ok a) := by
  refine ⟨fun raw a ↦ ⟨fun h ↦ ?_, fun ⟨n, hn, hin, hvalue⟩ ↦ ?_⟩, fun raw n hn hin ↦ ?_,
    fun raw a h ↦ ?_⟩
  · obtain ⟨n, hd, ht⟩ := exists_numeral_of_parse h
    obtain ⟨hn, hvalue⟩ := (parse_numeral_eq_ok_iff hd ht).1 h
    exact ⟨n, hn, hd.standsIn_iff.2 ht, hvalue⟩
  · exact (parse_numeral_eq_ok_iff hn.toDigital (hn.standsIn_iff.1 hin)).2 ⟨hn, hvalue⟩
  · obtain ⟨a, ha, -⟩ := parse_of_admitted hn (hn.standsIn_iff.1 hin)
    exact ⟨a, ha⟩
  · rw [parse_text, if_pos (natAbs_lt_readBound h)]

/-- A numeral with a sign, with blanks around it and a zero too many at its end. -/
theorem parse_padded_numeral :
    let n : Numeral := ⟨.plus, ['1', '2'], some ['5', '0', '0']⟩
    let a : Amount := ⟨1250, by decide, by decide⟩
    n.Admitted ∧ n.StandsIn "\u2003+12.500 " ∧ parse "\u2003+12.500 " = .ok a ∧
      (∃ b, parse "\u2003+12.500 " = .ok b) ∧ parse a.text = .ok a := by
  intro n a
  have hn : n.Admitted := by decide
  have hin : n.StandsIn "\u2003+12.500 " := ⟨['\u2003'], [' '], by simp [Text.isBlank], rfl⟩
  have hvalue : (a.minorUnits : ℚ) = 100 * n.value := by
    have hdigits : Text.ofDigits ['1', '2'] = 12 ∧ Text.ofDigits ['5', '0', '0'] = 500 := by decide
    simp only [a, n, Numeral.value, Text.denoted, Numeral.places, Sign.factor, Option.getD_some,
      hdigits, List.length_cons, List.length_nil]
    norm_num
  have hread := (parse_eq_ok_iff.1 _ a).2 ⟨n, hn, hin, hvalue⟩
  exact ⟨hn, hin, hread, parse_eq_ok_iff.2.1 _ n hn hin, parse_eq_ok_iff.2.2 _ a hread⟩

end

end Amount

end ContributionRegistry
