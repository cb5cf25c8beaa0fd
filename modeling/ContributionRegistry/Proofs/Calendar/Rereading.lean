import ContributionRegistry.Calendar.Timestamp

/-!
# Dates and timestamps and their texts

A written date is read as itself, whatever follows it (`readDate_spell`), and a written timestamp is
read as itself (`Timestamp.parse?_text`). Neither has exceptions: years before 0 and after 9999,
fractions of a second at each of the three widths and leap seconds are all read back.

What makes it work is that each number in a written date or time ends where reading ends. A padded
number of two digits is as long as `readPair` takes (`readPair_padded`); a year and a fraction are
followed by a character that is no digit. So there is one lemma for each piece, about the piece with
anything after it, and the readers of whole texts go from one to the next.
-/

namespace ContributionRegistry.Calendar

/-! ### Runs of digits -/

/-- A run of digits is taken whole if it is as long as the limit, or not longer and no digit
follows it. -/
theorem takeDigits_append {limit : Nat} {digits rest : List Char}
    (hd : Text.allDigits digits = true) (hl : digits.length ≤ limit)
    (hr : digits.length < limit → ∀ c ∈ rest.head?, c.isDigit = false) :
    takeDigits limit (digits ++ rest) = (digits, rest) := by
  induction digits generalizing limit with
  | nil =>
    rcases limit with _ | limit
    · simp [takeDigits]
    · rcases rest with _ | ⟨c, rest⟩
      · simp [takeDigits]
      · simp [takeDigits, hr (Nat.succ_pos _) c rfl]
  | cons c digits ih =>
    rw [Text.allDigits, List.all_cons, Bool.and_eq_true] at hd
    rcases limit with _ | limit
    · exact absurd hl (Nat.not_succ_le_zero _)
    · have hrest := ih hd.2 (Nat.le_of_succ_le_succ hl) fun h ↦ hr (Nat.succ_lt_succ h)
      simp [takeDigits, hd.1, hrest]

/-- A number is read up to what follows it, if that is no digit or the number is as long as it may
be. -/
theorem readNumber_append {limit : Nat} {digits rest : List Char} (hne : digits ≠ [])
    (hd : Text.allDigits digits = true) (hl : digits.length ≤ limit)
    (hr : digits.length < limit → ∀ c ∈ rest.head?, c.isDigit = false) :
    readNumber limit (digits ++ rest) = some (Text.ofDigits digits, rest) := by
  obtain ⟨c, ds, rfl⟩ := List.exists_cons_of_ne_nil hne
  rw [readNumber, takeDigits_append hd hl hr]

theorem padded_eq_cons (width n : Nat) :
    ∃ c rest, Text.padded width n = c :: rest ∧ c.isDigit = true := by
  have hne : Text.padded width n ≠ [] := by
    simp [Text.padded, Text.digitsOf_ne_nil]
  obtain ⟨c, rest, hc⟩ := List.exists_cons_of_ne_nil hne
  exact ⟨c, rest, hc, List.all_eq_true.1 (Text.allDigits_padded width n) c (by simp [hc])⟩

theorem trimStart_padded (width n : Nat) (rest : List Char) :
    Text.trimStart (Text.padded width n ++ rest) = Text.padded width n ++ rest := by
  obtain ⟨c, ds, hc, hdigit⟩ := padded_eq_cons width n
  rw [hc, List.cons_append]
  exact Text.trimStart_eq_self_of_not_blank (Text.not_blank_of_isDigit hdigit)

/-- A number of two digits is read whatever follows it. -/
theorem readPair_padded {n : Nat} (h : n < 100) (rest : List Char) :
    readPair (Text.padded 2 n ++ rest) = some (n, rest) := by
  have hlength : (Text.padded 2 n).length = 2 := Text.length_padded_of_lt (by decide) h
  obtain ⟨c, ds, hc, -⟩ := padded_eq_cons 2 n
  rw [readPair, trimStart_padded, readNumber_append (by simp [hc]) (Text.allDigits_padded 2 n)
    (by omega) (by omega), Text.ofDigits_padded]

theorem readChar_self (c : Char) (rest : List Char) : readChar c (c :: rest) = some rest :=
  if_pos rfl

/-! ### Dates -/

/-- A year that starts with a digit has at most four of them. -/
theorem readYear_of_isDigit {c : Char} (h : c.isDigit = true) (rest : List Char) :
    readYear (c :: rest) = (readNumber 4 (c :: rest)).map fun (n, rest) ↦ ((n : Int), rest) := by
  rw [readYear, Text.trimStart_eq_self_of_not_blank (Text.not_blank_of_isDigit h)]
  split
  · next he => cases he; cases h
  · next he => cases he; cases h
  · rfl

/-- A padded number is read up to a hyphen. -/
theorem readNumber_padded {width n : Nat} {limit : Nat} (hl : (Text.padded width n).length ≤ limit)
    (rest : List Char) :
    readNumber limit (Text.padded width n ++ '-' :: rest) = some (n, '-' :: rest) := by
  obtain ⟨c, ds, hc, -⟩ := padded_eq_cons width n
  rw [readNumber_append (by simp [hc]) (Text.allDigits_padded width n) hl (by rintro - _ ⟨⟩; rfl),
    Text.ofDigits_padded]

/-- A year is read up to the hyphen after it. -/
theorem readYear_spellYear (year : Int) (rest : List Char) :
    readYear (Date.spellYear year ++ '-' :: rest) = some (year, '-' :: rest) := by
  unfold Date.spellYear
  split
  · next hyear =>
    have hlength : (Text.padded 4 year.toNat).length = 4 :=
      Text.length_padded_of_lt (by decide) (show year.toNat < 10000 by omega)
    have hnumber := readNumber_padded (Nat.le_of_eq hlength) rest
    obtain ⟨c, ds, hc, hdigit⟩ := padded_eq_cons 4 year.toNat
    rw [hc, List.cons_append] at hnumber ⊢
    rw [readYear_of_isDigit hdigit, hnumber]
    simp
    omega
  · have hnumber : readNumber (Text.padded 4 year.natAbs ++ '-' :: rest).length
        (Text.padded 4 year.natAbs ++ '-' :: rest) = some (year.natAbs, '-' :: rest) :=
      readNumber_padded (by simp) rest
    split
    · rw [List.cons_append, readYear, Text.trimStart_eq_self_of_not_blank rfl]
      simp only [hnumber, Option.map_some, Option.some.injEq, Prod.mk.injEq, and_true]
      omega
    · rw [List.cons_append, readYear, Text.trimStart_eq_self_of_not_blank rfl]
      simp only [hnumber, Option.map_some, Option.some.injEq, Prod.mk.injEq, and_true]
      omega

theorem daysInMonth_le (year : Int) (month : Nat) : daysInMonth year month ≤ 31 := by
  unfold daysInMonth
  split
  · split <;> decide
  · split <;> decide

/-- **A written date is read as itself**, whatever follows it; where blanks may stand before a
hyphen, there are none. -/
theorem readDate_spell {gap : List Char → List Char}
    (hgap : ∀ rest, gap ('-' :: rest) = '-' :: rest) (d : Date) (rest : List Char) :
    readDate gap (d.spell ++ rest) = some (d, rest) := by
  obtain ⟨-, -, -, hmonth, -, hday⟩ := d.isDate
  have hdays := daysInMonth_le d.year d.month
  simp [Date.spell, readDate, readYear_spellYear, hgap, readChar_self,
    readPair_padded (n := d.month) (by omega), readPair_padded (n := d.day) (by omega),
    Date.ofYearMonthDay?_self]

/-! ### Timestamps -/

/-- The digits of a fraction are read up to the `Z` after them. -/
theorem readNanos_padded {width n : Nat} (hw : 0 < width) (hw' : width ≤ 9)
    (h : n < Nat.pow 10 width) (rest : List Char) :
    readNanos (Text.padded width n ++ 'Z' :: rest) =
      some (n * Nat.pow 10 (9 - width), 'Z' :: rest) := by
  have hlength := Text.length_padded_of_lt hw h
  have htake : takeDigits 9 (Text.padded width n ++ 'Z' :: rest) =
      (Text.padded width n, 'Z' :: rest) :=
    takeDigits_append (Text.allDigits_padded width n) (by omega) (by rintro - _ ⟨⟩; rfl)
  obtain ⟨c, ds, hc, -⟩ := padded_eq_cons width n
  rw [readNanos, htake, hc]
  simp only [← hc, Text.ofDigits_padded, hlength]
  rfl

/-- A fraction is read up to the `Z` after it. -/
theorem readFraction_spellFraction {nanos : Nat} (h : nanos < 1000000000) (rest : List Char) :
    readFraction (Timestamp.spellFraction nanos ++ 'Z' :: rest) = some (nanos, 'Z' :: rest) := by
  unfold Timestamp.spellFraction
  -- no digits, three, six or nine: the branch taken says that what is cut off is zero
  split
  · subst nanos
    rfl
  split
  · rw [List.cons_append, readFraction, readNanos_padded (by decide) (by decide)
      (show nanos / 1000000 < 1000 by omega)]
    simp
    omega
  split
  · rw [List.cons_append, readFraction, readNanos_padded (by decide) (by decide)
      (show nanos / 1000 < 1000000 by omega)]
    simp
    omega
  · rw [List.cons_append, readFraction, readNanos_padded (by decide) (by decide) h]
    simp

/-- The clock of a timestamp is read up to the `Z` after it. -/
theorem readClock_spell (t : Timestamp) (rest : List Char) :
    Timestamp.readClock (Text.padded 2 (t.minute / 60) ++ ':' :: (Text.padded 2 (t.minute % 60) ++
      ':' :: (Text.padded 2 t.second ++ (Timestamp.spellFraction t.nanos ++ 'Z' :: rest)))) =
      some ((t.minute / 60, t.minute % 60, t.second, t.nanos), 'Z' :: rest) := by
  have hminute := t.minute_lt
  have hsecond := t.second_le
  have hcolon (rest : List Char) : Text.trimStart (':' :: rest) = ':' :: rest := rfl
  simp [Timestamp.readClock, readPair_padded (n := t.minute / 60) (by omega),
    readPair_padded (n := t.minute % 60) (by omega), readPair_padded (n := t.second) (by omega),
    hcolon, readChar_self, readFraction_spellFraction t.nanos_lt]
  omega

/-- A clock that shows universal time need not be shifted. -/
theorem ofLocal?_zero (t : Timestamp) :
    Timestamp.ofLocal? 0 t.date t.minute t.second t.nanos = some t := by
  have hminute := t.minute_lt
  have hparts : Timestamp.ofParts? t.date t.minute t.second t.nanos = some t :=
    dif_pos ⟨t.minute_lt, t.second_le, t.nanos_lt⟩
  rw [Timestamp.ofLocal?, Int.sub_zero]
  simp only [Int.toNat_natCast, hparts]
  rw [if_neg (by omega), if_pos (by omega)]

/-- **A written timestamp is read as itself.** -/
theorem Timestamp.parse?_text (t : Timestamp) : parse? t.text = some t := by
  have hhyphen (rest : List Char) : Text.trimStart ('-' :: rest) = '-' :: rest := rfl
  have hz : Text.trimStart ['Z'] = ['Z'] := rfl
  have hend : Text.trimStart [] = [] := rfl
  have hminute : 60 * (t.minute / 60) + t.minute % 60 = t.minute := Nat.div_add_mod _ _
  have hoffset : readLenientOffset ['Z'] = some (0, []) := rfl
  rw [parse?, text, String.toList_ofList]
  simp only [spell, List.append_assoc, List.cons_append]
  rw [readDate_spell hhyphen]
  simp [isSeparator, readClock_spell, hz, hoffset, hend, hminute, ofLocal?_zero]

end ContributionRegistry.Calendar
