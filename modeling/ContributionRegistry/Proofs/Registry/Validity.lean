import ContributionRegistry.Proofs.Database.Rows
import ContributionRegistry.Proofs.Records.Intake
import ContributionRegistry.Proofs.Registry.Histories

/-!
# What the records of a registry are like

All records of a registry that starts with none are valid, whatever requests come in
(`records_valid`): they have come through the checks, been entered with one time to the millisecond,
and stand under their own keys. A valid contribution is read back from the row that a database would
keep for it, so nothing that gets into a registry in memory could not be kept in one.

A record is valid when it is entered, because the checks say so (`NewContribution.valid_enter` and
its like, from `Proofs.Records.Intake`), and records are not changed afterwards. So that all are
valid (`Sound`) is kept by each request, which adds one record at most (`Change`), and then by a
history. That no two have the same key is a matter of the shelf, and holds of it by itself.
-/

namespace ContributionRegistry

open Calendar (Timestamp)

/-- A record that was made at one time and has not been changed. -/
structure Untouched (createdAt updatedAt : Timestamp) : Prop where
  /-- The times of making and changing are the same. -/
  same : createdAt = updatedAt
  /-- It is a time in whole milliseconds, within its minute. -/
  countable : createdAt.Countable

/-- An employee as it comes out of the checks. -/
structure Employee.Valid (e : Employee) : Prop where
  /-- The RSSB number is a key. -/
  rssbNumber : IsKey e.rssbNumber
  /-- The first name is a name. -/
  firstname : IsName e.firstname
  /-- The last name is a name. -/
  lastname : IsName e.lastname
  /-- The times are those of the making. -/
  untouched : Untouched e.createdAt e.updatedAt

/-- An employer as it comes out of the checks. -/
structure Employer.Valid (e : Employer) : Prop where
  /-- The registration number is a key. -/
  matricule : IsKey e.matricule
  /-- The name is one. -/
  name : IsName e.name
  /-- The times are those of the making. -/
  untouched : Untouched e.createdAt e.updatedAt

/-- A contribution as it comes out of the checks; it can be kept in a row. -/
structure Contribution.Valid (c : Contribution) : Prop where
  /-- The employee is given by a key. -/
  rssbNumber : IsKey c.rssbNumber
  /-- The employer is given by a key. -/
  matricule : IsKey c.matricule
  /-- The year has four digits. -/
  year_le : c.period.year ≤ 9999
  /-- The month is not before January. -/
  month_pos : 1 ≤ c.period.month
  /-- The month is not after December. -/
  month_le : c.period.month ≤ 12
  /-- The amount is positive and not too large. -/
  payable : c.amount.Payable
  /-- The times are those of the making. -/
  untouched : Untouched c.createdAt c.updatedAt
  /-- The row that is kept for it is read as it. -/
  reread : Database.contributionOfRow (Database.insertContribution c).row = .ok c

section

variable {stamp : Stamp}

/-- An employee that passed the checks is entered as a valid one. -/
theorem NewEmployee.valid_enter {e : NewEmployee} (h : e.validate = .ok ())
    (hstamp : stamp.now.Countable) : (e.enter stamp).Valid := by
  obtain ⟨hfirst, hlast, hkey⟩ := NewEmployee.of_validate h
  exact ⟨hkey, hfirst, hlast, rfl, hstamp⟩

/-- An employer that passed the checks is entered as a valid one. -/
theorem NewEmployer.valid_enter {e : NewEmployer} (h : e.validate = .ok ())
    (hstamp : stamp.now.Countable) : (e.enter stamp).Valid := by
  obtain ⟨hname, hkey⟩ := NewEmployer.of_validate h
  exact ⟨hkey, hname, rfl, hstamp⟩

/-- A contribution that passed the checks is entered as a valid one. -/
theorem NewContribution.valid_enter {c : NewContribution} (h : c.validate = .ok ())
    (hstamp : stamp.now.Countable) : (c.enter stamp).Valid := by
  obtain ⟨hrssb, hmatricule, hamount⟩ := NewContribution.of_validate h
  have hreread := Database.contributionOfRow_insertContribution (c := c.enter stamp)
    hamount.lt_readBound hstamp hstamp
  exact ⟨hrssb, hmatricule, c.period.year_le, c.period.month_pos, c.period.month_le, hamount,
    ⟨rfl, hstamp⟩, hreread⟩

end

namespace Deployment.Registry

/-- All records are valid, and each is the one that its key leads to. -/
structure Valid (r : Registry) : Prop where
  /-- Employees are valid and found under their RSSB numbers. -/
  employees : ∀ e ∈ r.employees.shelf.records,
    e.Valid ∧ r.employees.shelf.find? e.rssbNumber = some e
  /-- Employers are valid and found under their registration numbers. -/
  employers : ∀ e ∈ r.employers.shelf.records,
    e.Valid ∧ r.employers.shelf.find? e.matricule = some e
  /-- Contributions are valid. -/
  contributions : ∀ c ∈ r.contributions.shelf.records, c.Valid
  /-- No two contributions have the same identifier. -/
  ids : (r.contributions.shelf.records.map Contribution.id).Nodup

/-- Whatever is true of all records and of a new one is true of all records after it was put on the
shelf. -/
theorem forall_mem_of_added {ρ : Type} {rs rs' : List ρ} {new : ρ} {P : ρ → Prop}
    (h : ∀ r ∈ rs, P r) (hgrown : rs' = rs ++ [new]) (hnew : P new) : ∀ r ∈ rs', P r := by
  rw [hgrown]
  exact List.forall_mem_append.2 ⟨h, List.forall_mem_singleton.2 hnew⟩

/-- The records of the three shelves are valid. -/
structure Sound (r : Registry) : Prop where
  /-- All employees are valid. -/
  employees : ∀ e ∈ r.employees.shelf.records, e.Valid
  /-- All employers are valid. -/
  employers : ∀ e ∈ r.employers.shelf.records, e.Valid
  /-- All contributions are valid. -/
  contributions : ∀ c ∈ r.contributions.shelf.records, c.Valid

theorem sound_empty : Sound {} :=
  ⟨fun _ he ↦ absurd he List.not_mem_nil, fun _ he ↦ absurd he List.not_mem_nil,
    fun _ hc ↦ absurd hc List.not_mem_nil⟩

variable {r r' : Registry}

theorem Sound.of_same (h : Sound r) (hsame : Same r r') : Sound r' where
  employees := hsame.employees ▸ h.employees
  employers := hsame.employers ▸ h.employers
  contributions := hsame.contributions ▸ h.contributions

/-- **A request keeps all records valid.** -/
theorem Sound.serve (h : Sound r) (origins : List String) (a : Arrival) :
    Sound (serve origins a r).2 := by
  have hstamp : a.stamp.now.Countable := Timestamp.countable_wholeMillis a.regular
  rcases change_serve origins a r with hsame | ⟨hadded, -⟩ | ⟨hadded, -⟩ | ⟨hadded, -⟩
  · exact h.of_same hsame
  · obtain ⟨input, s, -, hcheck, hgrown, heq⟩ := hadded
    rw [heq]
    exact ⟨forall_mem_of_added h.employees hgrown (NewEmployee.valid_enter hcheck hstamp),
      h.employers, h.contributions⟩
  · obtain ⟨input, s, -, hcheck, hgrown, heq⟩ := hadded
    rw [heq]
    exact ⟨h.employees,
      forall_mem_of_added h.employers hgrown (NewEmployer.valid_enter hcheck hstamp),
      h.contributions⟩
  · obtain ⟨input, s, -, hcheck, hgrown, heq⟩ := hadded
    rw [heq]
    exact ⟨h.employees, h.employers,
      forall_mem_of_added h.contributions hgrown (NewContribution.valid_enter hcheck hstamp)⟩

/-- So does any event. -/
theorem Sound.step (h : Sound r) (origins : List String) (event : Event) :
    Sound (step origins r event) := by
  cases event with
  | arrival a => exact h.serve origins a
  | switched employees employers contributions =>
    exact ⟨h.employees, h.employers, h.contributions⟩

/-- And so does any history. -/
theorem Sound.after (h : Sound r) (origins : List String) (events : List Event) :
    Sound (after origins r events) :=
  History.run_keeps h (fun _ event h ↦ h.step origins event) events

/-- **Every record of a registry is valid**, whatever requests have come in since it had none. -/
theorem records_valid (origins : List String) (events : List Event) :
    Valid (after origins {} events) := by
  have h : Sound (after origins {} events) := sound_empty.after origins events
  refine ⟨fun e he ↦ ⟨h.employees e he, Shelf.find?_of_mem he⟩,
    fun e he ↦ ⟨h.employers e he, Shelf.find?_of_mem he⟩, h.contributions, ?_⟩
  -- a shelf has no two records under one key
  exact List.pairwise_map.2 (after origins {} events).contributions.shelf.distinct

end Deployment.Registry

end ContributionRegistry
