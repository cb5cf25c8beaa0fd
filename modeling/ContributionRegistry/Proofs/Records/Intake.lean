import ContributionRegistry.Proofs.Amount.Rereading
import ContributionRegistry.Records.Intake
import Mathlib.Data.String.Basic

/-!
# What passes the checks on new records

What is known of a record that passed the checks it has to pass before it is stored. Keys that pass
are one to fifty ASCII letters and digits (`IsKey`), and amounts that pass are payable.

A name is checked as it is handed in and stored without the blanks at its ends, so of a name that
passes it is the stored one that has neither blanks there nor too many characters
(`isName_of_checkName`). The check counts characters of the text as it came, and taking blanks off
makes a text no longer.

For each kind of record the checks are made one after the other, and passing all is passing each
(`NewEmployee.of_validate`, `NewEmployer.of_validate`, `NewContribution.of_validate`).
-/

namespace ContributionRegistry

namespace Text

/-! ### Trimming -/

theorem isPrefix_trimEnd (text : List Char) : trimEnd text <+: text := by
  have hsuffix : text.reverse.dropWhile isBlank <:+ text.reverse := List.dropWhile_suffix isBlank
  have hprefix := hsuffix.reverse
  rwa [List.reverse_reverse] at hprefix

theorem isSuffix_trimStart (text : List Char) : trimStart text <:+ text :=
  List.dropWhile_suffix isBlank

theorem length_trim_le (text : List Char) : (trim text).length ≤ text.length :=
  Nat.le_trans (isPrefix_trimEnd _).length_le (isSuffix_trimStart text).length_le

theorem not_blank_of_dropWhile {text : List Char} {c : Char}
    (h : (text.dropWhile isBlank).head? = some c) : isBlank c = false := by
  have hfirst := List.head?_dropWhile_not isBlank text
  rw [h] at hfirst
  exact hfirst

/-- What is trimmed does not begin with a blank. -/
theorem not_blank_of_head?_trim {text : List Char} {c : Char} (h : (trim text).head? = some c) :
    isBlank c = false := by
  obtain ⟨rest, hrest⟩ := isPrefix_trimEnd (trimStart text)
  obtain ⟨front, hfront⟩ := List.head?_eq_some_iff.1 h
  have hstart : (trimStart text).head? = some c := by
    rw [← hrest, show trimEnd (trimStart text) = c :: front from hfront]
    rfl
  exact not_blank_of_dropWhile hstart

/-- What is trimmed does not end with a blank. -/
theorem not_blank_of_getLast?_trim {text : List Char} {c : Char}
    (h : (trim text).getLast? = some c) : isBlank c = false := by
  rw [trim, trimEnd, List.getLast?_reverse] at h
  exact not_blank_of_dropWhile h

end Text

/-- A text of one to fifty ASCII letters and digits. -/
structure IsKey (value : String) : Prop where
  /-- It is not empty. -/
  length_pos : 1 ≤ value.length
  /-- It has fifty characters at most. -/
  length_le : value.length ≤ 50
  /-- It is made of ASCII letters and digits. -/
  alphanum : ∀ c ∈ value.toList, c.isAlphanum = true

/-- A text of one to 255 characters with no blank at either end. -/
structure IsName (value : String) : Prop where
  /-- It is not empty. -/
  length_pos : 1 ≤ value.length
  /-- It has 255 characters at most. -/
  length_le : value.length ≤ 255
  /-- It does not start with a blank. -/
  first : ∀ c, value.toList.head? = some c → Text.isBlank c = false
  /-- It does not end with one. -/
  last : ∀ c, value.toList.getLast? = some c → Text.isBlank c = false

namespace Intake

theorem length_le_utf8Len (text : List Char) : text.length ≤ String.utf8Len text := by
  induction text with
  | nil => exact Nat.le_refl 0
  | cons c text ih =>
    have hpos := c.utf8Size_pos
    rw [List.length_cons, String.utf8Len_cons]
    omega

/-- A key that passes is a key. -/
theorem isKey_of_checkKey {field value : String} (h : checkKey field value = .ok ()) :
    IsKey value := by
  unfold checkKey at h
  split at h
  · cases h
  · next hempty =>
    split at h
    · cases h
    · next hsize =>
      split at h
      · next hall =>
        have hle := length_le_utf8Len value.toList
        rw [String.utf8Len_toList, String.length_toList] at hle
        refine ⟨?_, by omega, List.all_eq_true.1 hall⟩
        rw [String.isEmpty_iff] at hempty
        exact Nat.one_le_iff_ne_zero.2 fun hzero ↦ hempty (String.length_eq_zero_iff.1 hzero)
      · cases h

/-- The name that is stored is the one without its blanks. -/
theorem isName_of_checkName {field value : String} (h : checkName field value = .ok ()) :
    IsName (Text.trimmed value) := by
  unfold checkName at h
  split at h
  · cases h
  · next hblank =>
    split at h
    · cases h
    · next hlength =>
      have hle := Text.length_trim_le value.toList
      rw [String.length_toList] at hle
      refine ⟨?_, ?_, fun c hc ↦ ?_, fun c hc ↦ ?_⟩
      · rw [Text.trimmed, String.length_ofList]
        exact List.length_pos_iff.2 fun hnil ↦ hblank (hnil ▸ rfl)
      · rw [Text.trimmed, String.length_ofList]
        omega
      · rw [Text.trimmed, String.toList_ofList] at hc
        exact Text.not_blank_of_head?_trim hc
      · rw [Text.trimmed, String.toList_ofList] at hc
        exact Text.not_blank_of_getLast?_trim hc

/-- An amount that passes is payable. -/
theorem payable_of_checkAmount {a : Amount} (h : checkAmount a = .ok ()) : a.Payable := by
  unfold checkAmount at h
  split at h
  · cases h
  · next hnegative =>
    split at h
    · cases h
    · next hlarge =>
      have hnonneg : ¬ a.minorUnits < 0 := by simpa [Amount.isNegative] using hnegative
      exact ⟨by omega, by omega⟩

/-- Checks that are made one after another pass only together. -/
theorem ok_of_bind {first : Except InvalidField Unit} {rest : Unit → Except InvalidField Unit}
    (h : first >>= rest = .ok ()) : first = .ok () ∧ rest () = .ok () := by
  cases first with
  | ok u => exact ⟨rfl, h⟩
  | error e => cases h

end Intake

/-! ### Whole records -/

/-- What is known of a new employee that passed. -/
theorem NewEmployee.of_validate {e : NewEmployee} (h : e.validate = .ok ()) :
    IsName (Text.trimmed e.firstname) ∧ IsName (Text.trimmed e.lastname) ∧ IsKey e.rssbNumber := by
  obtain ⟨hfirst, h⟩ := Intake.ok_of_bind h
  obtain ⟨hlast, hkey⟩ := Intake.ok_of_bind h
  exact ⟨Intake.isName_of_checkName hfirst, Intake.isName_of_checkName hlast,
    Intake.isKey_of_checkKey hkey⟩

/-- What is known of a new employer that passed. -/
theorem NewEmployer.of_validate {e : NewEmployer} (h : e.validate = .ok ()) :
    IsName (Text.trimmed e.name) ∧ IsKey e.matricule := by
  obtain ⟨hname, hkey⟩ := Intake.ok_of_bind h
  exact ⟨Intake.isName_of_checkName hname, Intake.isKey_of_checkKey hkey⟩

/-- What is known of a new contribution that passed. -/
theorem NewContribution.of_validate {c : NewContribution} (h : c.validate = .ok ()) :
    IsKey c.rssbNumber ∧ IsKey c.matricule ∧ c.amount.Payable := by
  obtain ⟨hrssb, h⟩ := Intake.ok_of_bind h
  obtain ⟨hmatricule, hamount⟩ := Intake.ok_of_bind h
  exact ⟨Intake.isKey_of_checkKey hrssb, Intake.isKey_of_checkKey hmatricule,
    Intake.payable_of_checkAmount hamount⟩

end ContributionRegistry
