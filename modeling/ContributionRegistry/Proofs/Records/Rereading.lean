import ContributionRegistry.Proofs.Records.EmployeeTexts

/-!
# Employees and employers read back

The text that is written of an employee or an employer is read as the same record, whatever it is
made of (`records_reread`). An employee's text can also be read as what another service tells, by a
layout of its own that lets the times be left out; adopting that gives the employee back but for
the times.

A record is written with a value for each field of its layout, so it is enough that each value fits
the field it is written to and is read back from there. Dates of birth and timestamps are the ones
that take an argument (`readDate_spell`, `Timestamp.parse?_text`); all else is text.
-/

namespace ContributionRegistry

open Calendar (Timestamp)
open Json (Field membersOf namedOf ofText)

namespace Employee

/-- The fields of an employee with what is written to them. -/
def filled (e : Employee) : List (Field × Json) :=
  [(textField "id", ofText e.id), (textField "firstname", ofText e.firstname),
    (textField "lastname", ofText e.lastname), (textField "rssbNumber", ofText e.rssbNumber),
    (birthDateField "dob", ofText e.dob.text),
    (timestampField "createdAt", ofText e.createdAt.text),
    (timestampField "updatedAt", ofText e.updatedAt.text)]

/-- The record is written as its fields with their values. -/
theorem toJson_eq_filled (e : Employee) : e.toJson = .object (membersOf e.filled) := rfl

theorem filled_fits (e : Employee) : ∀ p ∈ e.filled, p.1.fits p.2 = .ok () := by
  simp only [filled, List.forall_mem_cons, textField_fits, birthDateField_fits,
    timestampField_fits, true_and]
  exact fun _ h ↦ absurd h List.not_mem_nil

/-- **A written employee is read as itself.** -/
theorem ofJson_toJson (e : Employee) : ofJson e.toJson = .ok e := by
  have hdob : (namedOf e.filled).get "dob" Json.toBirthDate = .ok e.dob :=
    Json.toBirthDate_ofText e.dob
  have hcreated : (namedOf e.filled).get "createdAt" Json.toTimestamp = .ok e.createdAt :=
    Json.toTimestamp_ofText e.createdAt
  have hupdated : (namedOf e.filled).get "updatedAt" Json.toTimestamp = .ok e.updatedAt :=
    Json.toTimestamp_ofText e.updatedAt
  rw [ofJson, Json.Layout.decode, toJson_eq_filled,
    Json.Layout.open_of_fits rfl (by decide) e.filled_fits]
  simp only [Attempt.ok_bind, read, hdob, hcreated, hupdated]
  rfl

/-- What another service is told of an employee is the employee, but for the times. -/
theorem adopt_told (e : Employee) (now : Timestamp) :
    e.told.adopt now = { e with createdAt := now, updatedAt := now } := rfl

end Employee

namespace Employer

/-- The fields of an employer with what is written to them. -/
def filled (r : Employer) : List (Field × Json) :=
  [(textField "id", ofText r.id), (textField "name", ofText r.name),
    (textField "matricule", ofText r.matricule),
    (timestampField "createdAt", ofText r.createdAt.text),
    (timestampField "updatedAt", ofText r.updatedAt.text)]

theorem toJson_eq_filled (r : Employer) : r.toJson = .object (membersOf r.filled) := rfl

theorem filled_fits (r : Employer) : ∀ p ∈ r.filled, p.1.fits p.2 = .ok () := by
  simp only [filled, List.forall_mem_cons, textField_fits, timestampField_fits, true_and]
  exact fun _ h ↦ absurd h List.not_mem_nil

/-- **A written employer is read as itself.** -/
theorem ofJson_toJson (r : Employer) : ofJson r.toJson = .ok r := by
  have hcreated : (namedOf r.filled).get "createdAt" Json.toTimestamp = .ok r.createdAt :=
    Json.toTimestamp_ofText r.createdAt
  have hupdated : (namedOf r.filled).get "updatedAt" Json.toTimestamp = .ok r.updatedAt :=
    Json.toTimestamp_ofText r.updatedAt
  rw [ofJson, Json.Layout.decode, toJson_eq_filled,
    Json.Layout.open_of_fits rfl (by decide) r.filled_fits]
  simp only [Attempt.ok_bind, read, hcreated, hupdated]
  rfl

theorem isPlain_toJson (r : Employer) : r.toJson.isPlain = true := rfl

end Employer

/-- **What is written of a record is read as the record.** Of an employee it may be read as told by
another service too: adopted, that is the employee with new times. -/
theorem records_reread (e : Employee) (r : Employer) (now : Timestamp) :
    Json.decodeText Employee.ofJson e.toJson.render = .ok e ∧
      Json.decodeText Employer.ofJson r.toJson.render = .ok r ∧
      (Json.decodeText RemoteEmployee.ofJson e.toJson.render).map
          (fun told : RemoteEmployee ↦ told.adopt now) =
        .ok { e with createdAt := now, updatedAt := now } := by
  have hemployee := e.isPlain_toJson
  rw [Json.decodeText_render hemployee, Json.decodeText_render hemployee,
    Json.decodeText_render r.isPlain_toJson, RemoteEmployee.ofJson_toJson]
  exact ⟨e.ofJson_toJson, r.ofJson_toJson, congrArg Except.ok (e.adopt_told now)⟩

/-- A year before 0, a leap second and characters that are written as escapes. -/
example :
    let e : Employee :=
      { id := "e", firstname := "\"\\\n", lastname := "é", rssbNumber := "1"
        dob := ⟨-44, 3, 15, by decide⟩
        createdAt := ⟨⟨2016, 12, 31, by decide⟩, 1439, 60, 5, by decide, by decide, by decide⟩
        updatedAt := .startOf .epoch }
    e.dob.text = "-0044-03-15" ∧ e.createdAt.text = "2016-12-31T23:59:60.000000005Z" ∧
      (Json.decodeText Employee.ofJson e.toJson.render).toOption = some e := by
  decide +kernel

end ContributionRegistry
