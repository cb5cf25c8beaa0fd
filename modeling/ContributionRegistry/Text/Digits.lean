/-!
# Digits

Reading and writing of natural numbers in ASCII decimal digits, plain and padded with zeros, the
reading of digits of other bases up to sixteen, and the reading of an unsigned number with a largest
admitted value, as settings write them.

Numbers are written by the core library (`Nat.toDigits`) and read by it (`Nat.ofDigitChars`); the
definitions here fix the base and the padding. The facts say that what is written reads as the
number (`ofDigits_digitsOf`, `ofDigits_padded`), how long it is, and that digits of one length are
told apart by the number (`eq_of_ofDigits_eq`), so that a text of fixed width is written again as it
was read (`padded_ofDigits`).
-/

namespace ContributionRegistry.Text

/-- Nothing but ASCII decimal digits. The empty text qualifies. -/
def allDigits (text : List Char) : Bool :=
  text.all Char.isDigit

/-- The number that a run of decimal digits denotes; `0` for the empty run. -/
def ofDigits (text : List Char) : Nat :=
  Nat.ofDigitChars 10 text 0

/-- The decimal digits of a number, without leading zeros. -/
def digitsOf (n : Nat) : List Char :=
  Nat.toDigits 10 n

/-- The decimal digits of a number, led by as many zeros as bring them to `width`. -/
def padded (width n : Nat) : List Char :=
  List.replicate (width - (digitsOf n).length) '0' ++ digitsOf n

/-! ### Digits of other bases -/

/-- The value of a digit of up to sixteen. -/
def digitValue (c : Char) : Nat :=
  if c.isDigit then c.toNat - '0'.toNat
  else if 'a' ≤ c ∧ c ≤ 'f' then c.toNat - 'a'.toNat + 10
  else if 'A' ≤ c ∧ c ≤ 'F' then c.toNat - 'A'.toNat + 10
  else 0

/-- Whether a character is a hexadecimal digit. -/
def isHexDigit (c : Char) : Bool :=
  c.isDigit || ('a' ≤ c && c ≤ 'f') || ('A' ≤ c && c ≤ 'F')

/-- The number of a run of digits. -/
def ofRadix (radix : Nat) (digits : List Char) : Nat :=
  digits.foldl (fun n c ↦ radix * n + digitValue c) 0

/-! ### Unsigned numbers with a largest value -/

/-- Why a text is no unsigned number. -/
inductive NumberFault where
  | empty
  | badDigit
  | tooLarge
  deriving DecidableEq, Repr

/-- The wording of each fault. -/
def NumberFault.message : NumberFault → String
  | .empty => "cannot parse integer from empty string"
  | .badDigit => "invalid digit found in string"
  | .tooLarge => "number too large to fit in target type"

/-- Reads digits onto `sofar`. The number is judged digit by digit, so of a bad digit and a
number that has grown too large, the one that comes first is reported. -/
def readDigits (largest : Nat) : Nat → List Char → Except NumberFault Nat
  | sofar, [] => .ok sofar
  | sofar, c :: rest =>
    if c.isDigit then
      let next := 10 * sofar + (c.toNat - '0'.toNat)
      if next ≤ largest then readDigits largest next rest else .error .tooLarge
    else .error .badDigit

/-- Reads an unsigned number of at most `largest`: an optional `+`, then at least one digit,
and nothing else. A sign on its own is a bad digit, not an empty text. -/
def readNumber (largest : Nat) (text : String) : Except NumberFault Nat :=
  match text.toList with
  | [] => .error .empty
  | '+' :: c :: rest => readDigits largest 0 (c :: rest)
  | all => readDigits largest 0 all

/-! ### Small facts -/

/-- A number is read from its digits. -/
theorem ofDigits_digitsOf (n : Nat) : ofDigits (digitsOf n) = n :=
  Nat.ofDigitChars_toDigits (by decide) (by decide)

/-- Numbers are written in digits. -/
theorem allDigits_digitsOf (n : Nat) : allDigits (digitsOf n) = true :=
  List.all_eq_true.2 fun _ h ↦ Nat.isDigit_of_mem_toDigits (by decide) (by decide) h

/-- Every number has a digit. -/
theorem digitsOf_ne_nil (n : Nat) : digitsOf n ≠ [] := Nat.toDigits_ne_nil

/-- A number has so many digits at most just if it is below that power of ten. -/
theorem length_digitsOf_le_iff {n k : Nat} (h : 0 < k) :
    (digitsOf n).length ≤ k ↔ n < Nat.pow 10 k :=
  Nat.length_toDigits_le_iff (by decide) h

/-- Padding makes a number as long as the width, and never shorter than it is. -/
theorem length_padded (width n : Nat) :
    (padded width n).length = max width (digitsOf n).length := by
  simp only [padded, List.length_append, List.length_replicate]
  omega

/-- A number that fits has just the width. -/
theorem length_padded_of_lt {width n : Nat} (hw : 0 < width) (h : n < Nat.pow 10 width) :
    (padded width n).length = width := by
  have := (length_digitsOf_le_iff hw).2 h
  rw [length_padded]
  omega

/-- Padding is done with digits. -/
theorem allDigits_padded (width n : Nat) : allDigits (padded width n) = true := by
  have hzeros : allDigits (List.replicate (width - (digitsOf n).length) '0') = true := by
    simp [allDigits, Char.isDigit]
  rw [padded, allDigits, List.all_append, ← allDigits, ← allDigits, hzeros, allDigits_digitsOf]
  rfl

/-- A number is read from its padded form. -/
theorem ofDigits_padded (width n : Nat) : ofDigits (padded width n) = n := by
  rw [padded, ofDigits, Nat.ofDigitChars_append, Nat.ofDigitChars_replicate_zero, Nat.mul_zero]
  exact ofDigits_digitsOf n

/-- The first digit counts as many powers of ten as there are digits after it. -/
theorem ofDigits_cons (c : Char) (text : List Char) : ofDigits (c :: text) =
    Nat.pow 10 text.length * (c.toNat - '0'.toNat) + ofDigits text := by
  rw [ofDigits, Nat.ofDigitChars_cons, Nat.ofDigitChars_eq_ofDigitChars_zero, Nat.mul_zero,
    Nat.zero_add]
  rfl

/-- A run of digits denotes a number below the power of ten that has one digit more. -/
theorem ofDigits_lt {text : List Char} (h : allDigits text = true) :
    ofDigits text < Nat.pow 10 text.length := by
  induction text with
  | nil => decide
  | cons c text ih =>
    rw [allDigits, List.all_cons, Bool.and_eq_true] at h
    have hc : c.toNat ≤ '9'.toNat := (Char.isDigit_iff_toNat.1 h.1).2
    have hdigit : c.toNat - '0'.toNat ≤ 9 := Nat.sub_le_of_le_add hc
    calc ofDigits (c :: text)
        = Nat.pow 10 text.length * (c.toNat - '0'.toNat) + ofDigits text :=
          ofDigits_cons c text
      _ < Nat.pow 10 text.length * 9 + Nat.pow 10 text.length :=
          Nat.add_lt_add_of_le_of_lt (Nat.mul_le_mul_left _ hdigit) (ih h.2)
      _ = Nat.pow 10 (c :: text).length := by
          rw [List.length_cons, Nat.pow_eq, Nat.pow_eq, Nat.pow_succ]
          omega

/-- Runs of equally many digits that denote the same number are the same. -/
theorem eq_of_ofDigits_eq {a b : List Char} (ha : allDigits a = true) (hb : allDigits b = true)
    (hlength : a.length = b.length) (h : ofDigits a = ofDigits b) : a = b := by
  induction a generalizing b with
  | nil => exact (List.eq_nil_of_length_eq_zero hlength.symm).symm
  | cons c a ih =>
    obtain ⟨d, b, rfl⟩ := List.exists_cons_of_length_eq_add_one hlength.symm
    have hlength' : a.length = b.length := Nat.succ.inj hlength
    rw [allDigits, List.all_cons, Bool.and_eq_true] at ha hb
    have hposition : 0 < Nat.pow 10 a.length := Nat.pow_pos (by decide)
    have hlt : ofDigits a < Nat.pow 10 a.length := ofDigits_lt ha.2
    have hlt' : ofDigits b < Nat.pow 10 a.length := hlength' ▸ ofDigits_lt hb.2
    rw [ofDigits_cons, ofDigits_cons, ← hlength'] at h
    have hrest : ofDigits a = ofDigits b := by
      have hmod := congrArg (· % Nat.pow 10 a.length) h
      simpa only [Nat.mul_add_mod, Nat.mod_eq_of_lt hlt, Nat.mod_eq_of_lt hlt'] using hmod
    have hdigit : c.toNat - '0'.toNat = d.toNat - '0'.toNat := by
      rw [hrest] at h
      exact Nat.eq_of_mul_eq_mul_left hposition (Nat.add_right_cancel h)
    have hc : '0'.toNat ≤ c.toNat := (Char.isDigit_iff_toNat.1 ha.1).1
    have hd : '0'.toNat ≤ d.toNat := (Char.isDigit_iff_toNat.1 hb.1).1
    rw [Char.toNat_inj.1 (by omega : c.toNat = d.toNat), ih ha.2 hb.2 hlength' hrest]

/-- A run of digits is the number that it denotes, written in its width. -/
theorem padded_ofDigits {text : List Char} (h : allDigits text = true) (hne : text ≠ []) :
    padded text.length (ofDigits text) = text :=
  eq_of_ofDigits_eq (allDigits_padded ..) h
    (length_padded_of_lt (List.length_pos_iff.2 hne) (ofDigits_lt h)) (ofDigits_padded ..)

end ContributionRegistry.Text
