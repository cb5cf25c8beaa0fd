import ContributionRegistry.Text.Digits

/-!
# Contribution periods

A period is a calendar month of a year from 0 to 9999. It is written as four digits, a hyphen and
two digits; the writing is fixed in width, so periods and their texts are ordered alike.

The bounds of year and month are part of a period, so every period has a written form of seven
characters. Reading accepts written forms and nothing else: neither blanks nor signs nor missing
zeros are made up for.

* `Period.parse_text` and `Period.text_of_parse` say that writing and reading undo each other;
* `Period.eq_of_text_eq` says that different periods have different texts. Tables keep periods as
  texts and look them up by their text, so this is what makes such a lookup one by period.
-/

namespace ContributionRegistry

/-- A calendar month in the years 0 to 9999. -/
structure Period where
  /-- The year, which has at most four digits. -/
  year : Nat
  /-- The month, counted from 1. -/
  month : Nat
  /-- The year can be written with four digits. -/
  year_le : year ≤ 9999 := by omega
  /-- There is no month before January. -/
  month_pos : 1 ≤ month := by omega
  /-- There is no month after December. -/
  month_le : month ≤ 12 := by omega
  deriving DecidableEq, Repr

/-- A text, or a year and month, that names no period. -/
structure InvalidPeriod where
  /-- The text, or year and month in the form of a period, as they were given. -/
  raw : String
  deriving DecidableEq, Repr

/-- The wording of the refusal. -/
def InvalidPeriod.message (e : InvalidPeriod) : String :=
  "Invalid period '" ++ e.raw ++ "', expected YYYY-MM"

namespace Period

/-- A year and a month in the written form of a period, whether or not they name one. -/
def spell (year month : Nat) : List Char :=
  Text.padded 4 year ++ '-' :: Text.padded 2 month

/-- The written form of a period. -/
def text (p : Period) : String :=
  String.ofList (spell p.year p.month)

/-- The period of a year and month, if there is one. -/
def ofYearMonth? (year month : Nat) : Option Period :=
  if h : year ≤ 9999 ∧ 1 ≤ month ∧ month ≤ 12 then
    some ⟨year, month, h.1, h.2.1, h.2.2⟩
  else none

/-- The period of a year and month. The refusal shows both as a period would be written. -/
def ofYearMonth (year month : Nat) : Except InvalidPeriod Period :=
  match ofYearMonth? year month with
  | some p => .ok p
  | none => .error ⟨String.ofList (spell year month)⟩

/-- Reads four digits, a hyphen and two digits. -/
def read? : List Char → Option Period
  | [a, b, c, d, '-', e, f] =>
    if Text.allDigits [a, b, c, d, e, f] then
      ofYearMonth? (Text.ofDigits [a, b, c, d]) (Text.ofDigits [e, f])
    else none
  | _ => none

/-- Reads the written form of a period, and nothing else. -/
def parse (raw : String) : Except InvalidPeriod Period :=
  match read? raw.toList with
  | some p => .ok p
  | none => .error ⟨raw⟩

/-- Whether one period comes before another: the year decides, then the month. -/
def precedes (p q : Period) : Bool :=
  p.year < q.year || (p.year == q.year && p.month < q.month)

/-! ### Small facts -/

/-- The year and month of a period are those of a period. -/
theorem ofYearMonth?_self (p : Period) : ofYearMonth? p.year p.month = some p := by
  simp [ofYearMonth?, p.year_le, p.month_pos, p.month_le]

/-- A period is read back from its written form. -/
theorem parse_text (p : Period) : parse p.text = .ok p := by
  have hyear : (Text.padded 4 p.year).length = 4 :=
    Text.length_padded_of_lt (by decide) (Nat.lt_succ_of_le p.year_le)
  have hmonth : (Text.padded 2 p.month).length = 2 :=
    Text.length_padded_of_lt (by decide) (Nat.lt_of_le_of_lt p.month_le (by decide))
  have hread : read? (spell p.year p.month) = some p := by
    have hdigits := Text.allDigits_padded 4 p.year
    have hdigits' := Text.allDigits_padded 2 p.month
    have hvalue := Text.ofDigits_padded 4 p.year
    have hvalue' := Text.ofDigits_padded 2 p.month
    match hy : Text.padded 4 p.year, hyear, hm : Text.padded 2 p.month, hmonth with
    | [a, b, c, d], _, [e, f], _ =>
      rw [hy] at hdigits hvalue
      rw [hm] at hdigits' hvalue'
      have hall : Text.allDigits [a, b, c, d, e, f] = true := by
        simp_all [Text.allDigits]
      rw [spell, hy, hm]
      show (if Text.allDigits [a, b, c, d, e, f] then _ else _) = _
      rw [if_pos hall, hvalue, hvalue', ofYearMonth?_self]
  rw [parse, text, String.toList_ofList, hread]

/-- A period is written as it was read. -/
theorem text_of_parse {raw : String} {p : Period} (h : parse raw = .ok p) : p.text = raw := by
  unfold parse at h
  split at h
  · next hread =>
    cases h
    unfold read? at hread
    split at hread
    · next a b c d e f hraw =>
      split at hread
      · next hall =>
        unfold ofYearMonth? at hread
        split at hread
        · cases hread
          have hdigits : Text.allDigits ([a, b, c, d] ++ [e, f]) = true := hall
          rw [Text.allDigits, List.all_append, Bool.and_eq_true] at hdigits
          have hyear : Text.padded 4 (Text.ofDigits [a, b, c, d]) = [a, b, c, d] :=
            Text.padded_ofDigits hdigits.1 (List.cons_ne_nil _ _)
          have hmonth : Text.padded 2 (Text.ofDigits [e, f]) = [e, f] :=
            Text.padded_ofDigits hdigits.2 (List.cons_ne_nil _ _)
          rw [← String.toList_inj, text, String.toList_ofList, spell, hyear, hmonth, hraw]
          rfl
        · cases hread
      · cases hread
    · cases hread
  · cases h

/-- Different periods have different texts. -/
theorem eq_of_text_eq {p q : Period} (h : p.text = q.text) : p = q := by
  have hp := parse_text p
  rw [h, parse_text] at hp
  exact (Except.ok.inj hp).symm

/-- The order of periods as a statement about years and months. -/
theorem precedes_iff (p q : Period) :
    p.precedes q = true ↔ p.year < q.year ∨ p.year = q.year ∧ p.month < q.month := by
  simp [precedes]

end Period

end ContributionRegistry
