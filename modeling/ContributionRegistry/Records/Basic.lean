import ContributionRegistry.Amount
import ContributionRegistry.Calendar.Timestamp
import ContributionRegistry.Period

/-!
# Records of the registry

Employees are known by their RSSB number, employers by their matricule; a contribution is a payment
for one employee by one employer in one period. Every record has an identifier of its own and
carries the times of its creation and last change. Nothing changes a record once it is made, so the
two are the same.

Records refer to each other by number and not otherwise: a contribution may be for an employee that
the registry does not have.

What another service tells of an employee is a record of its own (`RemoteEmployee`), and it becomes
an employee with the times of its arrival (`RemoteEmployee.adopt`).
-/

namespace ContributionRegistry

open Calendar (Date Timestamp)

/-- A person for whom contributions are paid. -/
structure Employee where
  /-- The identifier of the record. -/
  id : String
  /-- The first name. -/
  firstname : String
  /-- The last name. -/
  lastname : String
  /-- The number under which the employee is known. -/
  rssbNumber : String
  /-- The date of birth. -/
  dob : Date
  /-- When the record was made. -/
  createdAt : Timestamp
  /-- When the record was last changed. -/
  updatedAt : Timestamp
  deriving DecidableEq, Repr

/-- A body that pays contributions. -/
structure Employer where
  /-- The identifier of the record. -/
  id : String
  /-- The name. -/
  name : String
  /-- The number under which the employer is known. -/
  matricule : String
  /-- When the record was made. -/
  createdAt : Timestamp
  /-- When the record was last changed. -/
  updatedAt : Timestamp
  deriving DecidableEq, Repr

/-- A payment for one employee by one employer in one period. -/
structure Contribution where
  /-- The identifier of the record, under which the contribution is known. -/
  id : String
  /-- The month that is paid for. -/
  period : Period
  /-- For whom it is paid. -/
  rssbNumber : String
  /-- By whom it is paid. -/
  matricule : String
  /-- How much is paid. -/
  amount : Amount
  /-- When the record was made. -/
  createdAt : Timestamp
  /-- When the record was last changed. -/
  updatedAt : Timestamp
  deriving DecidableEq, Repr

/-- An employee as the registry of another service tells of them. The times may be left out. -/
structure RemoteEmployee where
  /-- The identifier of the record at the other service. -/
  id : String
  /-- The first name. -/
  firstname : String
  /-- The last name. -/
  lastname : String
  /-- The number under which the employee is known. -/
  rssbNumber : String
  /-- The date of birth. -/
  dob : Date
  /-- When the other service made its record, if it says so. -/
  createdAt : Option Timestamp
  /-- When the other service last changed its record, if it says so. -/
  updatedAt : Option Timestamp
  deriving DecidableEq, Repr

/-- The employee as a record of one's own, made now. -/
def RemoteEmployee.adopt (e : RemoteEmployee) (now : Timestamp) : Employee where
  id := e.id
  firstname := e.firstname
  lastname := e.lastname
  rssbNumber := e.rssbNumber
  dob := e.dob
  createdAt := now
  updatedAt := now

end ContributionRegistry
