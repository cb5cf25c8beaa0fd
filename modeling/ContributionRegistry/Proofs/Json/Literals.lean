import ContributionRegistry.Proofs.Decimal.Scaling
import ContributionRegistry.Proofs.Json.Rereading
import ContributionRegistry.Proofs.Text.Fractions

/-!
# Number literals without an exponent

The text of such a literal is read as the literal (`parse_writeNumber`), also where it stands last
in a record (`parse_write_number`), and the literal as a floating-point number that is near to what
it denotes (`toDouble_near`).

A number is read in steps, and each loses something. Digits beyond what 64 bits hold are left off
(`Kept`), the digits that are kept are rounded, and so are the power of ten and the quotient. The
losses are bounded one by one (`gathered_near`, and `Proofs.Decimal.Scaling` for the scaling), and
all in all they move the number by one part in `2 ^ 51` at most, or by less than any amount counts.

Where the digits make a number of 53 bits there is one rounding only (`toDouble_of_lt`).
-/

namespace ContributionRegistry

namespace NumberLiteral

/-- A literal without an exponent, as texts have it: digits before the point, without a zero in
front, and maybe digits behind it. -/
structure Positional (l : NumberLiteral) : Prop where
  /-- There are digits before the point. -/
  whole_ne_nil : l.whole ≠ []
  /-- Before the point are digits only. -/
  whole_digits : Text.allDigits l.whole = true
  /-- They have no zero in front, unless it is all there is. -/
  zero_of_head : l.whole.head? = some '0' → l.whole = ['0']
  /-- Behind the point are digits only. -/
  fraction_digits : Text.allDigits l.fraction = true
  /-- There is no exponent. -/
  exponent_eq : l.exponent = none

instance (l : NumberLiteral) : Decidable l.Positional :=
  decidable_of_iff (l.whole ≠ [] ∧ Text.allDigits l.whole = true ∧
    (l.whole.head? = some '0' → l.whole = ['0']) ∧ Text.allDigits l.fraction = true ∧
      l.exponent = none)
    ⟨fun ⟨h₁, h₂, h₃, h₄, h₅⟩ ↦ ⟨h₁, h₂, h₃, h₄, h₅⟩,
      fun h ↦ ⟨h.whole_ne_nil, h.whole_digits, h.zero_of_head, h.fraction_digits, h.exponent_eq⟩⟩

/-- The number that a literal without an exponent denotes, less its sign. -/
def size (l : NumberLiteral) : ℚ := Text.denoted l.whole l.fraction

theorem size_nonneg (l : NumberLiteral) : 0 ≤ l.size := Text.denoted_nonneg ..

/-- The number that a literal without an exponent denotes. -/
def denotes (l : NumberLiteral) : ℚ := if l.negative then -l.size else l.size

end NumberLiteral

/-! ### Texts of literals -/

namespace Json

/-- Digits are taken up to what is no digit. -/
theorem takeDigits_append {digits : List Char} (h : Text.allDigits digits = true) {rest : Source}
    (hrest : takeDigits rest = ([], rest)) :
    takeDigits (Source.ofText digits ++ rest) = (digits, rest) := by
  induction digits with
  | nil => exact hrest
  | cons c digits ih =>
    rw [Text.allDigits, List.all_cons, Bool.and_eq_true] at h
    rw [Source.ofText_cons, List.cons_append, takeDigits, if_pos h.1, ih h.2]

/-- The digits before the point are read as they are. -/
theorem readWhole_append {l : NumberLiteral} (h : l.Positional) {rest : Source}
    (hrest : takeDigits rest = ([], rest)) :
    readWhole (Source.ofText l.whole ++ rest) = some (l.whole, rest) := by
  obtain ⟨c, digits, hwhole⟩ := List.exists_cons_of_ne_nil h.whole_ne_nil
  rw [readWhole, takeDigits_append h.whole_digits hrest]
  by_cases hc : c = '0'
  · rw [h.zero_of_head (by rw [hwhole, hc]; rfl)]
    rfl
  · rw [hwhole]
    split
    · next heq => cases heq
    · next heq => cases heq; exact absurd rfl hc
    · next heq => cases heq; exact absurd rfl hc
    · next heq => cases heq; rfl

/-- No number goes on here. -/
structure NumberEnds (rest : Source) : Prop where
  /-- No digit comes next. -/
  digits : takeDigits rest = ([], rest)
  /-- No fraction comes next. -/
  fraction : readFraction rest = some ([], rest)
  /-- No exponent comes next. -/
  exponent : readExponent rest = some (none, rest)

theorem numberEnds_nil : NumberEnds [] := ⟨rfl, rfl, rfl⟩

theorem numberEnds_brace (rest : Source) : NumberEnds (some '\x7d' :: rest) := ⟨rfl, rfl, rfl⟩

/-- The digits behind the point are read as they are. -/
theorem readFraction_text {fraction : List Char} (h : Text.allDigits fraction = true)
    {rest : Source} (hrest : NumberEnds rest) :
    readFraction (Source.ofText (if fraction.isEmpty then [] else '.' :: fraction) ++ rest) =
      some (fraction, rest) := by
  cases fraction with
  | nil => exact hrest.fraction
  | cons c digits =>
    simp only [List.isEmpty_cons, Bool.false_eq_true, if_false, Source.ofText_cons,
      List.cons_append, readFraction]
    rw [← List.cons_append, ← Source.ofText_cons, takeDigits_append h hrest.digits]

/-- The part of a literal after its sign is read as it was written. -/
theorem readMagnitude_text {l : NumberLiteral} (h : l.Positional) {rest : Source}
    (hrest : NumberEnds rest) :
    readMagnitude l.negative (Source.ofText l.whole ++
      (Source.ofText (if l.fraction.isEmpty then [] else '.' :: l.fraction) ++ rest)) =
        some (l, rest) := by
  have hpoint :
      takeDigits (Source.ofText (if l.fraction.isEmpty then [] else '.' :: l.fraction) ++ rest) =
        ([], Source.ofText (if l.fraction.isEmpty then [] else '.' :: l.fraction) ++ rest) := by
    cases l.fraction with
    | nil => exact hrest.digits
    | cons c digits => rfl
  have hliteral : l = ⟨l.negative, l.whole, l.fraction, none⟩ := by rw [← h.exponent_eq]
  rw [readMagnitude, readWhole_append h hpoint]
  simp only [Option.bind_eq_bind, Option.bind_some]
  rw [readFraction_text h.fraction_digits hrest]
  simp only [Option.bind_some]
  rw [hrest.exponent]
  conv_rhs => rw [hliteral]
  rfl

/-- The text of such a literal. -/
theorem writeNumber_positional {l : NumberLiteral} (h : l.Positional) :
    writeNumber l = (if l.negative then ['-'] else []) ++
      (l.whole ++ (if l.fraction.isEmpty then [] else '.' :: l.fraction)) := by
  rw [writeNumber, h.exponent_eq, List.append_nil, List.append_assoc]

/-- The literal is read to its end. -/
theorem readNumber_writeNumber {l : NumberLiteral} (h : l.Positional) {rest : Source}
    (hrest : NumberEnds rest) :
    readNumber (Source.ofText (writeNumber l) ++ rest) = some (l, rest) := by
  have hread := readMagnitude_text h hrest
  obtain ⟨c, digits, hwhole⟩ := List.exists_cons_of_ne_nil h.whole_ne_nil
  have hc : c.isDigit = true := List.all_eq_true.1 h.whole_digits c (by simp [hwhole])
  have hminus : c ≠ '-' := by rintro rfl; cases hc
  rw [writeNumber_positional h, Source.ofText_append, Source.ofText_append, List.append_assoc,
    List.append_assoc]
  cases hsign : l.negative with
  | true => rwa [hsign] at hread
  | false =>
    rw [hsign] at hread
    simp only [Bool.false_eq_true, if_false, Source.ofText_nil, List.nil_append]
    rw [readNumber]
    · exact hread
    · rintro rest heq
      rw [hwhole, Source.ofText_cons, List.cons_append] at heq
      exact hminus (by injection heq with h' _; exact Option.some.inj h')

/-- It starts with its sign or with a digit. -/
theorem writeNumber_eq_cons {l : NumberLiteral} (h : l.Positional) :
    ∃ c rest, writeNumber l = c :: rest ∧ (c = '-' ∨ c.isDigit = true) := by
  obtain ⟨c, digits, hwhole⟩ := List.exists_cons_of_ne_nil h.whole_ne_nil
  rw [writeNumber_positional h, hwhole]
  cases l.negative with
  | true => exact ⟨'-', _, rfl, .inl rfl⟩
  | false => exact ⟨c, _, rfl, .inr (List.all_eq_true.1 h.whole_digits c (by simp [hwhole]))⟩

/-- Neither a sign nor a digit starts any other kind of value. -/
theorem readValue_number {c : Char} {rest after : Source} {l : NumberLiteral} (bound : ℕ)
    (hc : c = '-' ∨ c.isDigit = true) (hread : readNumber (some c :: rest) = some (l, after)) :
    readValue (bound + 1) (some c :: rest) = (.number l, some after) := by
  have hne : ∀ d : Char, d ≠ '-' → d.isDigit = false → c ≠ d := by
    rintro d hminus hd rfl
    rcases hc with hc | hc
    · exact hminus hc
    · cases hd.symm.trans hc
  have hgap : isGap (some c) = false := by
    simp [isGap, hne ' ' (by decide) rfl, hne '\n' (by decide) rfl, hne '\t' (by decide) rfl,
      hne '\r' (by decide) rfl]
  rw [readValue, skipGaps_cons hgap]
  split
  · next heq => cases heq; exact absurd rfl (hne _ (by decide) rfl)
  · next heq => cases heq; exact absurd rfl (hne _ (by decide) rfl)
  · next heq => cases heq; exact absurd rfl (hne _ (by decide) rfl)
  · next heq => cases heq; exact absurd rfl (hne _ (by decide) rfl)
  · next heq => cases heq; exact absurd rfl (hne _ (by decide) rfl)
  · next heq => cases heq; exact absurd rfl (hne _ (by decide) rfl)
  · rw [hread]

/-- A literal is read as a value. -/
theorem readValue_writeNumber {l : NumberLiteral} (h : l.Positional) (bound : ℕ) {rest : Source}
    (hrest : NumberEnds rest) :
    readValue (bound + 1) (Source.ofText (writeNumber l) ++ rest) = (.number l, some rest) := by
  have hread := readNumber_writeNumber h hrest
  obtain ⟨c, text, htext, hc⟩ := writeNumber_eq_cons h
  rw [htext, Source.ofText_cons, List.cons_append] at hread ⊢
  exact readValue_number bound hc hread

/-- **The text of a literal is read as the literal**, to the end of the text. -/
theorem parse_writeNumber {l : NumberLiteral} (h : l.Positional) :
    parse (Source.ofText (writeNumber l)) = ⟨.number l, true⟩ := by
  have hread := readValue_writeNumber h (2 * (Source.ofText (writeNumber l)).length + 1)
    numberEnds_nil
  rw [List.append_nil] at hread
  rw [parse, hread]
  rfl

/-- Plain members and then a number, up to the brace after them. -/
theorem readMembers_number {l : NumberLiteral} (hl : l.Positional) (name : String)
    (rest : Source) : ∀ (ms : List (Option String × Json)) (bound : ℕ), membersPlain ms = true →
    (writeMembers (ms ++ [(some name, .number l)])).length + 1 ≤ bound →
      readMembers bound (Source.ofText (writeMembers (ms ++ [(some name, .number l)])) ++
        some '\x7d' :: rest) = (ms ++ [(some name, .number l)], some rest)
  | _, 0, _, hb => by simp at hb
  | [], 1, _, hb => by
    rw [List.nil_append, writeMembers] at hb
    simp only [List.length_append, List.length_cons] at hb
    omega
  | [], bound + 2, _, _ => by
    rw [List.nil_append, writeMembers, write, Option.getD_some, Source.ofText_append,
      List.append_assoc, Source.ofText_cons, List.cons_append,
      readMembers_last (readValue_writeNumber hl bound (numberEnds_brace rest)),
      String.ofList_toList]
  | (none, _) :: _, _, h, _ => by simp [membersPlain] at h
  | (some key, value) :: ms, bound + 1, h, hb => by
    obtain ⟨next, later, hmore⟩ := List.exists_cons_of_ne_nil
      (show ms ++ [(some name, Json.number l)] ≠ [] by simp)
    simp only [membersPlain, Option.isSome_some, Bool.true_and, Bool.and_eq_true] at h
    rw [List.cons_append, hmore, writeMembers_cons_cons, ← hmore] at hb ⊢
    simp only [List.length_append, List.length_cons] at hb
    have hvalue := readValue_write value bound (some ',' ::
      (Source.ofText (writeMembers (ms ++ [(some name, .number l)])) ++ some '\x7d' :: rest)) h.1
      (by omega)
    have hrest := readMembers_number hl name rest ms bound h.2 (by omega)
    have hread := readMembers_comma key.toList hvalue hrest
    simpa using hread

/-- **A record with a number for its last field is read back**, if all else in it is plain. -/
theorem parse_write_number {ms : List (Option String × Json)} (h : membersPlain ms = true)
    {l : NumberLiteral} (hl : l.Positional) (name : String) :
    parse (Source.ofText (write (.object (ms ++ [(some name, .number l)])))) =
      ⟨.object (ms ++ [(some name, .number l)]), true⟩ := by
  have hread (bound : ℕ)
      (hb : (writeMembers (ms ++ [(some name, .number l)])).length + 1 ≤ bound) :
      readValue (bound + 1) (Source.ofText (write (.object (ms ++ [(some name, .number l)])))) =
        (.object (ms ++ [(some name, .number l)]), some []) := by
    have hmembers := readMembers_number hl name [] ms bound h hb
    obtain ⟨first, later, hmore⟩ := List.exists_cons_of_ne_nil
      (show ms ++ [(some name, Json.number l)] ≠ [] by simp)
    obtain ⟨text, hw⟩ := writeMembers_eq_cons first later
    rw [hmore, hw, Source.ofText_cons, List.cons_append] at hmembers
    simpa [write, hmore, hw] using readValue_object hmembers
  have hlength : (writeMembers (ms ++ [(some name, .number l)])).length + 1 ≤
      (write (.object (ms ++ [(some name, .number l)]))).length := by simp [write]
  rw [parse, hread _ (by rw [length_ofText]; omega)]
  rfl

end Json

namespace NumberLiteral

open Decimal

/-! ### Gathering digits -/

/-- A number with digits left off at its end: what was kept is next below it, and digits are left
off only where 64 bits do not hold one more. -/
structure Kept (total n dropped : ℕ) : Prop where
  /-- The digits left off make the number larger. -/
  mul_le : n * 10 ^ dropped ≤ total
  /-- They do not make one more of what was kept. -/
  lt_mul : total < (n + 1) * 10 ^ dropped
  /-- Digits are left off only where one more would not have fitted. -/
  bound_le : dropped ≠ 0 → wordBound ≤ 10 * n + 9 ∧ wordBound ≤ total

/-- Of a number that 64 bits hold nothing is left off. -/
theorem Kept.of_lt {total n dropped : ℕ} (h : Kept total n dropped) (hlt : total < wordBound) :
    n = total ∧ dropped = 0 := by
  have hdropped : dropped = 0 := by
    by_contra hne
    exact absurd (h.bound_le hne).2 (not_le.2 hlt)
  have hle := h.mul_le
  have hgt := h.lt_mul
  rw [hdropped] at hle hgt
  exact ⟨by omega, hdropped⟩

/-- What is kept is one part in `10 ^ 18` too small at most. -/
theorem Kept.abs_sub_le {total n dropped : ℕ} (h : Kept total n dropped) :
    |(n * 10 ^ dropped : ℚ) - total| ≤ total / 10 ^ 18 := by
  have hle : (n * 10 ^ dropped : ℚ) ≤ total := by exact_mod_cast h.mul_le
  have hlt : (total : ℚ) < (n + 1) * 10 ^ dropped := by exact_mod_cast h.lt_mul
  by_cases hdropped : dropped = 0
  · have hn : (total : ℚ) = n := by
      have hle' := h.mul_le
      have hlt' := h.lt_mul
      rw [hdropped] at hle' hlt'
      exact_mod_cast (show total = n by omega)
    rw [hdropped, hn, pow_zero, mul_one, sub_self, abs_zero]
    positivity
  · have hn : (10 : ℚ) ^ 18 ≤ n := by
      have := (h.bound_le hdropped).1
      rw [wordBound] at this
      exact_mod_cast (show 10 ^ 18 ≤ n by omega)
    have hpow : (0 : ℚ) < 10 ^ dropped := by positivity
    have : (10 : ℚ) ^ 18 * 10 ^ dropped ≤ n * 10 ^ dropped := by gcongr
    rw [abs_sub_comm, abs_of_nonneg (by linarith), le_div_iff₀ (by positivity)]
    nlinarith

/-- Digits are kept from the left. -/
theorem kept_gatherWhole {digits : List Char} (h : Text.allDigits digits = true) (sofar : ℕ) :
    Kept (sofar * 10 ^ digits.length + Text.ofDigits digits) (gatherWhole sofar digits).1
      (gatherWhole sofar digits).2 := by
  induction digits generalizing sofar with
  | nil =>
    exact ⟨by simp [gatherWhole], by simp [gatherWhole, Text.ofDigits], by simp [gatherWhole]⟩
  | cons c digits ih =>
    have hlt := Text.ofDigits_lt h
    rw [Text.allDigits, List.all_cons, Bool.and_eq_true] at h
    have hc := Char.isDigit_iff_toNat.1 h.1
    have hdigit : c.toNat - '0'.toNat ≤ 9 := Nat.sub_le_of_le_add hc.2
    have htotal : sofar * 10 ^ (c :: digits).length + Text.ofDigits (c :: digits) =
        (10 * sofar + (c.toNat - '0'.toNat)) * 10 ^ digits.length + Text.ofDigits digits := by
      rw [Text.ofDigits_cons, List.length_cons, Nat.pow_eq, pow_succ]
      ring
    simp only [gatherWhole]
    split
    · rw [htotal]
      exact ih h.2 _
    -- once a digit does not fit, this one and all after it are left off
    · next hlarge =>
      refine ⟨Nat.le_add_right .., ?_, fun _ ↦ ⟨by omega, ?_⟩⟩
      · rw [add_mul, one_mul]
        exact Nat.add_lt_add_left hlt _
      · have hpow : 0 < 10 ^ digits.length := by positivity
        rw [htotal]
        exact (not_lt.1 hlarge).trans
          ((Nat.le_mul_of_pos_right _ hpow).trans (Nat.le_add_right ..))

theorem dropped_le (digits : List Char) (sofar : ℕ) :
    (gatherWhole sofar digits).2 ≤ digits.length := by
  induction digits generalizing sofar with
  | nil => exact le_rfl
  | cons c digits ih =>
    simp only [gatherWhole]
    split
    · exact (ih _).trans (Nat.le_succ _)
    · exact le_rfl

/-- Behind the point the digits that are kept are counted, and not those that are left off. -/
theorem gatherFraction_eq (digits : List Char) (sofar : ℕ) : gatherFraction sofar digits =
    ((gatherWhole sofar digits).1, digits.length - (gatherWhole sofar digits).2) := by
  induction digits generalizing sofar with
  | nil => rfl
  | cons c digits ih =>
    simp only [gatherFraction, gatherWhole]
    split
    · have := dropped_le digits (10 * sofar + (c.toNat - '0'.toNat))
      rw [ih]
      simp only [List.length_cons, Prod.mk.injEq, true_and]
      omega
    · simp

/-- The digits of a literal that are kept. -/
def significand (l : NumberLiteral) : ℕ :=
  (gatherWhole (gatherWhole 0 l.whole).1 l.fraction).1

/-- The power of ten that they count. -/
def power (l : NumberLiteral) : ℤ :=
  (gatherWhole 0 l.whole).2 + (gatherWhole (gatherWhole 0 l.whole).1 l.fraction).2 -
    l.fraction.length

/-- The literal as a number: what was gathered, scaled. -/
theorem toDouble_eq {l : NumberLiteral} (h : l.Positional) : l.toDouble =
    match (Binary64.ofNat? l.significand).bind (·.scale? l.power) with
    | some x => .double l.negative x
    | none => .outOfRange := by
  have hle := dropped_le l.fraction (gatherWhole 0 l.whole).1
  have hpower : ((gatherWhole 0 l.whole).2 : ℤ) -
      (l.fraction.length - (gatherWhole (gatherWhole 0 l.whole).1 l.fraction).2 : ℕ) + 0 =
        l.power := by
    rw [power]
    omega
  simp only [toDouble, gatherFraction_eq, h.exponent_eq, Option.getD_none, hpower]
  rfl

/-- Literals that 64 bits hold are kept whole. -/
theorem gathered_of_lt {l : NumberLiteral} (h : l.Positional)
    (hlt : Text.ofDigits (l.whole ++ l.fraction) < wordBound) :
    l.significand = Text.ofDigits (l.whole ++ l.fraction) ∧ l.power = -(l.fraction.length : ℤ) := by
  rw [Text.ofDigits_append] at hlt ⊢
  have hpow : 0 < 10 ^ l.fraction.length := by positivity
  have hwhole := kept_gatherWhole h.whole_digits 0
  rw [Nat.zero_mul, Nat.zero_add] at hwhole
  obtain ⟨hn, hdropped⟩ := hwhole.of_lt (lt_of_le_of_lt
    ((Nat.le_mul_of_pos_right _ hpow).trans (Nat.le_add_right ..)) hlt)
  have hfraction := kept_gatherWhole h.fraction_digits (gatherWhole 0 l.whole).1
  rw [hn] at hfraction
  obtain ⟨hn', hdropped'⟩ := hfraction.of_lt hlt
  rw [significand, power, hdropped, hn, hn', hdropped']
  exact ⟨rfl, by omega⟩

/-- Digits behind the point do not carry over. -/
theorem Kept.between {s n dropped length rest : ℕ} (h : Kept (s * 10 ^ length + rest) n dropped)
    (hrest : rest < 10 ^ length) (hle : dropped ≤ length) :
    s * 10 ^ length ≤ n * 10 ^ dropped ∧ n * 10 ^ dropped < (s + 1) * 10 ^ length := by
  obtain ⟨k, rfl⟩ := Nat.exists_eq_add_of_le hle
  have hpow : 0 < 10 ^ dropped := by positivity
  refine ⟨?_, lt_of_le_of_lt h.mul_le ?_⟩
  · have hlt : s * 10 ^ k * 10 ^ dropped < (n + 1) * 10 ^ dropped := by
      calc s * 10 ^ k * 10 ^ dropped = s * 10 ^ (dropped + k) := by rw [pow_add]; ring
        _ < (n + 1) * 10 ^ dropped := lt_of_le_of_lt (Nat.le_add_right ..) h.lt_mul
    rw [Nat.mul_lt_mul_right hpow] at hlt
    calc s * 10 ^ (dropped + k) = s * 10 ^ k * 10 ^ dropped := by rw [pow_add]; ring
      _ ≤ n * 10 ^ dropped := Nat.mul_le_mul_right _ (Nat.lt_succ_iff.1 hlt)
  · rw [add_mul, one_mul]
    exact Nat.add_lt_add_left hrest _

/-- Where all digits before the point are kept, the number that is kept is near as before. -/
theorem Kept.near_of_whole {s rest length n dropped : ℕ}
    (h : Kept (s * 10 ^ length + rest) n dropped) :
    |(n * 10 ^ dropped / 10 ^ length : ℚ) - (s + rest / 10 ^ length)| ≤
      (s + rest / 10 ^ length) / 10 ^ 18 := by
  have hpos : (0 : ℚ) < 10 ^ length := by positivity
  have htotal : (s + rest / 10 ^ length : ℚ) = (s * 10 ^ length + rest : ℕ) / 10 ^ length := by
    push_cast
    field_simp
  have hnear := h.abs_sub_le
  rw [htotal, ← sub_div, abs_div, abs_of_pos hpos, div_right_comm]
  gcongr

/-- Where digits before the point are left off, whatever lies between the same two neighbours is
near, among the numbers with so many zeros at the end. -/
theorem Kept.near_of_between {total n dropped : ℕ} (h : Kept total n dropped)
    (hdropped : dropped ≠ 0) {m rest : ℚ} (hm : n ≤ m) (hm' : m < n + 1) (hrest : 0 ≤ rest)
    (hrest' : rest < 1) : |m * 10 ^ dropped - (total + rest)| ≤ (total + rest) / 10 ^ 18 := by
  have hn : (10 : ℚ) ^ 18 ≤ n := by
    have := (h.bound_le hdropped).1
    rw [wordBound] at this
    exact_mod_cast (show 10 ^ 18 ≤ n by omega)
  have hlow : (n * 10 ^ dropped : ℚ) ≤ total := by exact_mod_cast h.mul_le
  have hhigh : (total + 1 : ℚ) ≤ (n + 1) * 10 ^ dropped := by exact_mod_cast h.lt_mul
  have hmlow : (n * 10 ^ dropped : ℚ) ≤ m * 10 ^ dropped := by gcongr
  have hmhigh : m * 10 ^ dropped ≤ ((n + 1) * 10 ^ dropped : ℚ) := by gcongr
  have hlarge : (10 : ℚ) ^ 18 * 10 ^ dropped ≤ n * 10 ^ dropped := by gcongr
  rw [le_div_iff₀ (by positivity), ← abs_of_pos (show (0 : ℚ) < 10 ^ 18 by positivity), ← abs_mul,
    abs_le]
  constructor <;> nlinarith

/-- **What is kept of a literal** is near to what it denotes. -/
theorem gathered_near {l : NumberLiteral} (h : l.Positional) :
    |l.significand * 10 ^ l.power - l.size| ≤ l.size / 10 ^ 18 := by
  have hwhole := kept_gatherWhole h.whole_digits 0
  rw [Nat.zero_mul, Nat.zero_add] at hwhole
  have hfraction := kept_gatherWhole h.fraction_digits (gatherWhole 0 l.whole).1
  have hle := dropped_le l.fraction (gatherWhole 0 l.whole).1
  have hrest := Text.ofDigits_lt h.fraction_digits
  rw [significand, power, size, Text.denoted]
  generalize gatherWhole 0 l.whole = front at *
  obtain ⟨s, dropped⟩ := front
  generalize gatherWhole s l.fraction = all at *
  obtain ⟨n, dropped'⟩ := all
  simp only at *
  set length := l.fraction.length
  have hlength : (0 : ℚ) < 10 ^ length := by positivity
  have hkept : (n : ℚ) * 10 ^ (dropped + dropped' - length : ℤ) =
      n * 10 ^ dropped' / 10 ^ length * 10 ^ dropped := by
    rw [zpow_sub₀ (by norm_num), zpow_add₀ (by norm_num), zpow_natCast, zpow_natCast, zpow_natCast]
    ring
  rw [hkept]
  -- if the digits before the point were all kept, only fraction digits are missing; otherwise the
  -- error is made before the point
  by_cases hdropped : dropped = 0
  · have hs : Text.ofDigits l.whole = s := by
      have hmul := hwhole.mul_le
      have hlt := hwhole.lt_mul
      rw [hdropped] at hmul hlt
      omega
    rw [hdropped, hs, pow_zero, mul_one]
    exact hfraction.near_of_whole
  · obtain ⟨hlow, hhigh⟩ := hfraction.between hrest hle
    refine hwhole.near_of_between hdropped ?_ ?_ (by positivity) ?_
    · rw [le_div_iff₀ hlength]
      exact_mod_cast hlow
    · rw [div_lt_iff₀ hlength]
      exact_mod_cast hhigh
    · rw [div_lt_one hlength]
      exact_mod_cast hrest

theorem gatherWhole_lt {sofar : ℕ} (h : sofar < wordBound) (digits : List Char) :
    (gatherWhole sofar digits).1 < wordBound := by
  induction digits generalizing sofar with
  | nil => exact h
  | cons c digits ih =>
    simp only [gatherWhole]
    split
    · next hnext => exact ih hnext
    · exact h

theorem significand_lt (l : NumberLiteral) : l.significand < wordBound :=
  gatherWhole_lt (gatherWhole_lt (by decide) _) _

/-! ### Literals as floating-point numbers -/

section

variable {l : NumberLiteral} {negative : Bool} {x : Binary64}

/-- **The floating-point number of a literal** is near to what the literal denotes: off by one part
in `2 ^ 51` at most, apart from what is too small to count. -/
theorem toDouble_near (h : l.Positional) (hx : l.toDouble = .double negative x) :
    negative = l.negative ∧ x.Regular ∧
      |x.value - l.size| ≤ l.size / 2 ^ 51 + Binary64.tiny := by
  rw [toDouble_eq h] at hx
  split at hx
  · next y hy =>
    cases hx
    obtain ⟨z, hz, hscale⟩ := Option.bind_eq_some_iff.1 hy
    obtain ⟨hregular, hround⟩ := Binary64.near_ofNat? hz
    have hlarge : (l.significand : ℚ) ≤ 2 * 10 ^ 19 := by
      have := l.significand_lt
      rw [wordBound] at this
      exact_mod_cast (show l.significand ≤ 2 * 10 ^ 19 by omega)
    have hround' := abs_le.1 hround
    have hbound : z.value ≤ 10 ^ 20 := by
      norm_num at hround' ⊢
      linarith
    obtain ⟨hxregular, hnear⟩ := Binary64.near_scale? hregular hbound hscale
    refine ⟨rfl, hxregular, ?_⟩
    have hgathered := abs_le.1 (gathered_near h)
    have hsize := l.size_nonneg
    have hpow : (0 : ℚ) < 10 ^ l.power := by positivity
    have hnear' := abs_le.1 hnear
    -- the rounded digits, scaled, are near to the digits scaled
    have hlow : l.significand * 10 ^ l.power - l.significand * 10 ^ l.power / (9 * 10 ^ 15) ≤
        z.value * 10 ^ l.power := by nlinarith
    have hhigh : z.value * 10 ^ l.power ≤
        l.significand * 10 ^ l.power + l.significand * 10 ^ l.power / (9 * 10 ^ 15) := by nlinarith
    have htiny := Binary64.tiny_pos
    rw [abs_le]
    generalize (l.significand * 10 ^ l.power : ℚ) = kept at *
    generalize z.value * 10 ^ l.power = scaled at *
    norm_num at *
    constructor <;> linarith
  · cases hx

/-- **A literal whose digits make a number of 53 bits is rounded once**, when the digits are divided
by the power of ten. -/
theorem toDouble_of_lt (h : l.Positional) (hdigits : Text.ofDigits (l.whole ++ l.fraction) < 2 ^ 53)
    (hplaces : 0 < l.fraction.length) (hplaces' : l.fraction.length ≤ 15) :
    ∃ x, l.toDouble = .double l.negative x ∧ x.Rounded l.size := by
  obtain ⟨hsignificand, hpower⟩ := gathered_of_lt h (hdigits.trans (by decide))
  set places := l.fraction.length with hlength
  have hpow : Nat.pow 10 places < 2 ^ 53 :=
    lt_of_le_of_lt (Nat.pow_le_pow_right (by decide) hplaces') (by decide)
  obtain ⟨n, hn, hnvalue⟩ := Binary64.ofNat?_of_lt hdigits
  obtain ⟨p, hp, hpvalue⟩ := Binary64.ofNat?_of_lt hpow
  have hppos : 0 < p.value := by
    rw [hpvalue]
    exact_mod_cast Nat.pow_pos (by decide)
  have hsize : n.value / p.value = l.size := by
    rw [hnvalue, hpvalue, size, Text.denoted_eq_div, Nat.pow_eq]
    push_cast
    rfl
  have hsmall : n.value / p.value < 2 ^ 53 := by
    have hone : (1 : ℚ) ≤ p.value := by
      rw [hpvalue]
      exact_mod_cast Nat.one_le_pow _ _ (by decide)
    refine lt_of_le_of_lt (div_le_self n.value_nonneg hone) ?_
    rw [hnvalue]
    exact_mod_cast hdigits
  obtain ⟨x, hx⟩ := Binary64.exists_div? hppos hsmall
  refine ⟨x, ?_, hsize ▸ Binary64.rounded_div? hppos hx⟩
  -- digits and power of ten are exact, so the quotient is the only rounding
  have hscale : n.scale? (-(places : ℤ)) = some x := by
    have htimes : (places - 1) / Binary64.largestPower = 0 :=
      Nat.div_eq_of_lt (by rw [Binary64.largestPower]; omega)
    rw [Binary64.scale?, if_neg (by omega)]
    simp only [neg_neg, Int.toNat_natCast, htimes, Nat.mul_zero, Nat.sub_zero]
    rw [Binary64.scaleDown, Binary64.powerOfTen?, ← Binary64.ofNat?, hp]
    exact hx
  rw [toDouble_eq h, hsignificand, hpower, hn]
  simp only [Option.bind_some, hscale]

end

end NumberLiteral

end ContributionRegistry
