import ContributionRegistry.Database.Tables
import ContributionRegistry.Proofs.Text.Bytes

/-!
# Periods and their texts

What is read as a period is what one is written as, and nothing else (`Period.exists_parse_iff`),
and the bytes of the texts are ordered as the periods are (`Period.precedes_iff_bytes_lt`). A
database that compares texts therefore compares periods.

The order rests on the fixed width. Of two runs of equally many digits the one with the smaller
number comes first byte by byte (`Text.bytes_lt_iff`): the first place where they differ decides,
and what comes after it counts less than one in that place. The hyphen is the same in all texts, so
years are compared before months.
-/

namespace ContributionRegistry

namespace Text

open Utf8 (byte)

/-! ### Runs of digits byte by byte -/

theorem toNat_lt_of_isDigit {c : Char} (h : c.isDigit = true) : c.toNat < 0x80 :=
  Nat.lt_of_le_of_lt (Char.isDigit_iff_toNat.1 h).2 (by decide)

/-- The bytes of digits are ordered like the digits. -/
theorem byte_lt_iff {c d : Char} (hc : c.isDigit = true) (hd : d.isDigit = true) :
    byte c < byte d ↔ c.toNat - '0'.toNat < d.toNat - '0'.toNat := by
  have hc' := toNat_lt_of_isDigit hc
  have hd' := toNat_lt_of_isDigit hd
  have hzero : '0'.toNat ≤ c.toNat := (Char.isDigit_iff_toNat.1 hc).1
  rw [UInt8.lt_iff_toNat_lt, byte, byte, Utf8.toNat_ofNat (by omega), Utf8.toNat_ofNat (by omega)]
  omega

/-- Numbers with a first digit each in a place that outweighs the rest are ordered by the first
digit, then by the rest. -/
theorem mul_add_lt_iff {place x y r s : Nat} (hr : r < place) (hs : s < place) :
    place * x + r < place * y + s ↔ x < y ∨ x = y ∧ r < s := by
  rcases Nat.lt_trichotomy x y with h | rfl | h
  · have hstep : place * x + place ≤ place * y := Nat.mul_le_mul_left place h
    exact iff_of_true (by omega) (.inl h)
  · simp
  · have hstep : place * y + place ≤ place * x := Nat.mul_le_mul_left place h
    exact iff_of_false (by omega) (by omega)

/-- **Of equally long runs of digits the one with the smaller number comes first, byte by byte.** -/
theorem bytes_lt_iff {a b : List Char} (ha : allDigits a = true) (hb : allDigits b = true)
    (hlength : a.length = b.length) : a.map byte < b.map byte ↔ ofDigits a < ofDigits b := by
  induction a generalizing b with
  | nil =>
    obtain rfl := List.eq_nil_of_length_eq_zero hlength.symm
    exact iff_of_false (List.lt_irrefl _) (Nat.lt_irrefl _)
  | cons c a ih =>
    obtain ⟨d, b, rfl⟩ := List.exists_cons_of_length_eq_add_one hlength.symm
    have hlength' : a.length = b.length := Nat.succ.inj hlength
    rw [allDigits, List.all_cons, Bool.and_eq_true] at ha hb
    have hc := toNat_lt_of_isDigit ha.1
    have hd := toNat_lt_of_isDigit hb.1
    have hzero : '0'.toNat ≤ c.toNat := (Char.isDigit_iff_toNat.1 ha.1).1
    have hzero' : '0'.toNat ≤ d.toNat := (Char.isDigit_iff_toNat.1 hb.1).1
    -- the first digits decide, or if they are the same the rest
    have hsame : byte c = byte d ↔ c.toNat - '0'.toNat = d.toNat - '0'.toNat := by
      rw [Utf8.byte_inj hc hd, ← Char.toNat_inj]
      omega
    rw [List.map_cons, List.map_cons, List.cons_lt_cons_iff, ih ha.2 hb.2 hlength', hsame,
      byte_lt_iff ha.1 hb.1, ofDigits_cons, ofDigits_cons, ← hlength',
      mul_add_lt_iff (ofDigits_lt ha.2) (hlength' ▸ ofDigits_lt hb.2)]

section

variable {width m n : Nat} (hwidth : 0 < width) (hm : m < Nat.pow 10 width)
  (hn : n < Nat.pow 10 width)

include hwidth hm hn

/-- Numbers that are written at one width are ordered like their bytes. -/
theorem padded_bytes_lt_iff :
    (padded width m).map byte < (padded width n).map byte ↔ m < n := by
  have hlength : (padded width m).length = (padded width n).length :=
    (length_padded_of_lt hwidth hm).trans (length_padded_of_lt hwidth hn).symm
  rw [bytes_lt_iff (allDigits_padded ..) (allDigits_padded ..) hlength, ofDigits_padded,
    ofDigits_padded]

/-- Numbers of the same width are known by their bytes. -/
theorem padded_bytes_inj : (padded width m).map byte = (padded width n).map byte ↔ m = n := by
  refine ⟨fun h ↦ Nat.le_antisymm (Nat.le_of_not_lt ?_) (Nat.le_of_not_lt ?_), fun h ↦ h ▸ rfl⟩
  · rw [← padded_bytes_lt_iff hwidth hn hm, h]
    exact List.lt_irrefl _
  · rw [← padded_bytes_lt_iff hwidth hm hn, h]
    exact List.lt_irrefl _

end

/-- Of lists that begin with equally many items the beginnings are compared first. -/
theorem append_lt_append_iff {a b : List UInt8} (h : a.length = b.length) (r s : List UInt8) :
    a ++ r < b ++ s ↔ a < b ∨ a = b ∧ r < s := by
  induction a generalizing b with
  | nil =>
    obtain rfl := List.eq_nil_of_length_eq_zero h.symm
    simp
  | cons x a ih =>
    obtain ⟨y, b, rfl⟩ := List.exists_cons_of_length_eq_add_one h.symm
    rw [List.cons_append, List.cons_append, List.cons_lt_cons_iff, List.cons_lt_cons_iff,
      ih (Nat.succ.inj h), List.cons.injEq, and_or_left, and_assoc, or_assoc]

end Text

namespace Period

open Text.Utf8 (byte)

variable {p q : Period} {raw : String}

/-! ### Reading -/

/-- Four digits, a hyphen, and two digits of a month from 01 to 12. Digits are those of ASCII. -/
def Written (raw : String) : Prop :=
  ∃ year month : List Char, raw.toList = year ++ '-' :: month ∧
    (year.length = 4 ∧ Text.allDigits year = true) ∧
    (month.length = 2 ∧ Text.allDigits month = true) ∧
    1 ≤ Text.ofDigits month ∧ Text.ofDigits month ≤ 12

theorem year_lt (p : Period) : p.year < Nat.pow 10 4 := Nat.lt_succ_of_le p.year_le

theorem month_lt (p : Period) : p.month < Nat.pow 10 2 :=
  Nat.lt_of_le_of_lt p.month_le (by decide)

theorem length_year (p : Period) : (Text.padded 4 p.year).length = 4 :=
  Text.length_padded_of_lt (by decide) p.year_lt

theorem length_month (p : Period) : (Text.padded 2 p.month).length = 2 :=
  Text.length_padded_of_lt (by decide) p.month_lt

/-- The text of a period: year, hyphen and month. -/
theorem toList_text (p : Period) :
    p.text.toList = Text.padded 4 p.year ++ '-' :: Text.padded 2 p.month := String.toList_ofList

/-- A period is written like this. -/
theorem written_text (p : Period) : Written p.text := by
  refine ⟨Text.padded 4 p.year, Text.padded 2 p.month, p.toList_text,
    ⟨p.length_year, Text.allDigits_padded ..⟩, ⟨p.length_month, Text.allDigits_padded ..⟩, ?_⟩
  rw [Text.ofDigits_padded]
  exact ⟨p.month_pos, p.month_le⟩

/-- What is written like this is the text of a period. -/
theorem Written.exists_text (h : Written raw) : ∃ p : Period, p.text = raw := by
  obtain ⟨year, month, hraw, ⟨hyear, hdigits⟩, ⟨hmonth, hdigits'⟩, hpos, hle⟩ := h
  have hbound : Text.ofDigits year < 10000 := by
    have hlt := Text.ofDigits_lt hdigits
    rwa [hyear] at hlt
  refine ⟨⟨Text.ofDigits year, Text.ofDigits month, Nat.le_of_lt_succ hbound, hpos, hle⟩, ?_⟩
  have hne : year ≠ [] := List.ne_nil_of_length_pos (by omega)
  have hne' : month ≠ [] := List.ne_nil_of_length_pos (by omega)
  have hback : Text.padded 4 (Text.ofDigits year) = year :=
    hyear ▸ Text.padded_ofDigits hdigits hne
  have hback' : Text.padded 2 (Text.ofDigits month) = month :=
    hmonth ▸ Text.padded_ofDigits hdigits' hne'
  rw [← String.toList_inj, toList_text, hback, hback', hraw]

/-- **What is read as a period is what one is written as.** -/
theorem exists_parse_iff (raw : String) : (∃ p, parse raw = .ok p) ↔ Written raw := by
  constructor
  · rintro ⟨p, hp⟩
    exact text_of_parse hp ▸ p.written_text
  · intro h
    obtain ⟨p, rfl⟩ := h.exists_text
    exact ⟨p, parse_text p⟩

/-- Everything else is refused, and the refusal shows it. -/
theorem parse_of_not_written (h : ¬Written raw) : parse raw = .error ⟨raw⟩ := by
  have hnone : ∀ p, parse raw ≠ .ok p := fun p hp ↦ h ((exists_parse_iff raw).1 ⟨p, hp⟩)
  unfold parse at hnone ⊢
  split
  · next p hread => exact absurd (by rw [hread]) (hnone p)
  · rfl

/-! ### Order -/

/-- The bytes of a text: those of the year, the hyphen, those of the month. -/
theorem encode_text (p : Period) : Text.Utf8.encode p.text.toList =
    (Text.padded 4 p.year).map byte ++ byte '-' :: (Text.padded 2 p.month).map byte := by
  have hdigits (width n : Nat) : ∀ c ∈ Text.padded width n, c.toNat < 0x80 := fun c hc ↦
    Text.toNat_lt_of_isDigit (List.all_eq_true.1 (Text.allDigits_padded width n) c hc)
  have hall : ∀ c ∈ Text.padded 4 p.year ++ '-' :: Text.padded 2 p.month, c.toNat < 0x80 :=
    List.forall_mem_append.2 ⟨hdigits 4 p.year,
      List.forall_mem_cons.2 ⟨by decide, hdigits 2 p.month⟩⟩
  rw [toList_text, Text.Utf8.encode_of_forall_lt hall, List.map_append, List.map_cons]

/-- **Periods are ordered like the bytes of their texts.** -/
theorem precedes_iff_bytes_lt (p q : Period) : p.precedes q = true ↔
    Text.Utf8.encode p.text.toList < Text.Utf8.encode q.text.toList := by
  have hlength : ((Text.padded 4 p.year).map byte).length =
      ((Text.padded 4 q.year).map byte).length := by
    rw [List.length_map, List.length_map, p.length_year, q.length_year]
  rw [precedes_iff, encode_text, encode_text, Text.append_lt_append_iff hlength,
    Text.padded_bytes_lt_iff (by decide) p.year_lt q.year_lt,
    Text.padded_bytes_inj (by decide) p.year_lt q.year_lt, List.cons_lt_cons_iff,
    Text.padded_bytes_lt_iff (by decide) p.month_lt q.month_lt]
  simp only [UInt8.lt_irrefl, true_and, false_or]

/-- **The text of a period stands for it**: exactly what is written like a period is read, as the
period whose text it is, and all else is refused; every period is read from its text; the bytes of
texts are ordered like the periods. So what a database writes for the period of a contribution is
what a search by period looks for just if it is that period. -/
theorem text_faithful :
    (∀ raw, (∃ p, parse raw = .ok p) ↔ Written raw) ∧
    (∀ raw, ¬Written raw → parse raw = .error ⟨raw⟩) ∧
    (∀ raw p, parse raw = .ok p → p.text = raw) ∧
    (∀ p, parse p.text = .ok p) ∧
    (∀ p q : Period, p.precedes q = true ↔
      Text.Utf8.encode p.text.toList < Text.Utf8.encode q.text.toList) ∧
    (∀ p q : Period, p.text = q.text ↔ p = q) ∧
    ∀ (c : Contribution) (q : Period), (Database.insertContribution c).values[1]? =
      (Database.selectBy (.byPeriod q)).values[0]? ↔ c.period = q := by
  have htext (p q : Period) : p.text = q.text ↔ p = q := ⟨eq_of_text_eq, congrArg text⟩
  refine ⟨exists_parse_iff, fun _ ↦ parse_of_not_written, fun _ _ ↦ text_of_parse, parse_text,
    precedes_iff_bytes_lt, htext, fun c q ↦ ?_⟩
  show some (Database.Value.text c.period.text) = some (.text q.text) ↔ _
  rw [Option.some_inj, Database.Value.text.injEq, htext]

end Period

end ContributionRegistry
