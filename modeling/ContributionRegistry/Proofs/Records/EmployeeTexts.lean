import ContributionRegistry.Proofs.Records.ContributionTexts

/-!
# Employees and their texts

What one service writes about an employee is read by another one as the same employee, times
included (`RemoteEmployee.ofJson_toJson`), though the two have layouts of their own: the reader's
lets the times be left out and may have them in place of nothing.

A list of employees is never read as an employee (`RemoteEmployee.ofJson_listToJson`). A record may
be written as an array, but then its first item is the identifier, and no employee is a text.
-/

namespace ContributionRegistry

open Json (Field fitting membersOf namedOf ofText)

/-! ### Dates of birth -/

/-- A date of birth is read back from its text. -/
theorem Calendar.BirthDate.parse?_text (d : Calendar.Date) : parse? d.text = some d := by
  have hdate : readDate id (d.spell ++ []) = some (d, []) := readDate_spell (fun _ ↦ rfl) d []
  rw [List.append_nil] at hdate
  rw [parse?, Calendar.Date.text, String.toList_ofList, readPlain?, hdate]

theorem Json.toBirthDate_ofText (d : Calendar.Date) :
    Json.toBirthDate (ofText d.text) = .ok d := by
  simp only [Json.toBirthDate, Json.toText, Json.textFor, ofText, Attempt.ok_bind,
    Calendar.BirthDate.parse?_text]
  rfl

theorem Json.toTimestamp?_ofText (t : Calendar.Timestamp) :
    Json.toTimestamp? (ofText t.text) = .ok (some t) := by
  rw [show Json.toTimestamp? (ofText t.text) = some <$> Json.toTimestamp (ofText t.text) from rfl,
    Json.toTimestamp_ofText]
  rfl

theorem birthDateField_fits (name : String) (d : Calendar.Date) :
    (birthDateField name).fits (ofText d.text) = .ok () := by
  simp only [birthDateField, fitting, Json.toBirthDate_ofText]
  rfl

theorem optionalTimestampField_fits (name : String) (t : Calendar.Timestamp) :
    (optionalTimestampField name).fits (ofText t.text) = .ok () := by
  simp only [optionalTimestampField, fitting, Json.toTimestamp?_ofText]
  rfl

/-! ### One employee -/

namespace Employee

/-- An employee as another service is told of them. -/
def told (e : Employee) : RemoteEmployee where
  id := e.id
  firstname := e.firstname
  lastname := e.lastname
  rssbNumber := e.rssbNumber
  dob := e.dob
  createdAt := some e.createdAt
  updatedAt := some e.updatedAt

/-- The fields in which the other service looks for what is written about an employee. -/
def written (e : Employee) : List (Field × Json) :=
  [(textField "id", ofText e.id), (textField "firstname", ofText e.firstname),
    (textField "lastname", ofText e.lastname), (textField "rssbNumber", ofText e.rssbNumber),
    (birthDateField "dob", ofText e.dob.text),
    (optionalTimestampField "createdAt", ofText e.createdAt.text),
    (optionalTimestampField "updatedAt", ofText e.updatedAt.text)]

/-- An employee is written as its fields with their values. -/
theorem toJson_eq (e : Employee) : e.toJson = .object (membersOf e.written) := rfl

theorem written_fits (e : Employee) : ∀ p ∈ e.written, p.1.fits p.2 = .ok () := by
  simp only [written, List.forall_mem_cons, textField_fits, birthDateField_fits,
    optionalTimestampField_fits, true_and]
  exact fun _ h ↦ absurd h List.not_mem_nil

theorem isPlain_toJson (e : Employee) : e.toJson.isPlain = true := rfl

theorem isPlain_listToJson (es : List Employee) : (Json.array (es.map toJson)).isPlain = true :=
  Json.isPlain_array_map isPlain_toJson es

end Employee

namespace RemoteEmployee

/-- **A written employee is read as the same employee.** -/
theorem ofJson_toJson (e : Employee) : ofJson e.toJson = .ok e.told := by
  have hdob : (namedOf e.written).get "dob" Json.toBirthDate = .ok e.dob :=
    Json.toBirthDate_ofText e.dob
  have hcreated : (namedOf e.written).get "createdAt" Json.toTimestamp? = .ok (some e.createdAt) :=
    Json.toTimestamp?_ofText e.createdAt
  have hupdated : (namedOf e.written).get "updatedAt" Json.toTimestamp? = .ok (some e.updatedAt) :=
    Json.toTimestamp?_ofText e.updatedAt
  rw [ofJson, Json.Layout.decode, Employee.toJson_eq,
    Json.Layout.open_of_fits rfl (by decide) e.written_fits]
  simp only [Attempt.ok_bind, read, hdob, hcreated, hupdated]
  rfl

/-- **A list of employees is not read as an employee.** -/
theorem ofJson_listToJson (es : List Employee) :
    ∃ f, ofJson (.array (es.map Employee.toJson)) = .error f := by
  cases es with
  | nil => exact ⟨_, rfl⟩
  | cons e es => exact ⟨_, rfl⟩

end RemoteEmployee

end ContributionRegistry
