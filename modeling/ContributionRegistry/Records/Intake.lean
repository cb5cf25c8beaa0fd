import ContributionRegistry.Records.Basic
import ContributionRegistry.Text.Blank

/-!
# New records

What is handed in for a new record, the checks on it, and the record that it becomes.

* Keys are one to fifty ASCII letters and digits.
* Names are not blank and have at most 255 characters, blanks at the ends included, though the
  record then goes without those.
* Amounts of contributions are not negative and have at most ten digits before the point.

The checks of a record go from field to field and stop at the first one that fails, with the name of
the field and the reason (`InvalidField`). A record is made of what is handed in and a `Stamp`,
which is all that the surroundings have a say in.
-/

namespace ContributionRegistry

open Calendar (Date Timestamp)

/-- Why a new record is refused: the field and what is wrong with it. -/
structure InvalidField where
  /-- The name of the field. -/
  field : String
  /-- What is wrong with it. -/
  reason : String
  deriving DecidableEq, Repr

/-- The wording of the refusal. -/
def InvalidField.message (e : InvalidField) : String := s!"Invalid {e.field}: {e.reason}"

/-- Where and when a record is made: the identifier it gets and the time. -/
structure Stamp where
  /-- The identifier that the record gets. -/
  id : String
  /-- The time at which it is made. -/
  now : Timestamp
  deriving DecidableEq, Repr

namespace Intake

/-- An ASCII letter or digit. -/
def isKeyChar (c : Char) : Bool := c.isAlphanum

/-- Checks a key. Its length is counted in bytes, and before its characters are looked at. -/
def checkKey (field value : String) : Except InvalidField Unit :=
  if value.isEmpty then .error ⟨field, "must not be empty"⟩
  else if 50 < value.utf8ByteSize then .error ⟨field, "must be at most 50 characters"⟩
  else if value.toList.all isKeyChar then .ok ()
  else .error ⟨field, "must be ASCII alphanumeric"⟩

/-- Checks a name. -/
def checkName (field value : String) : Except InvalidField Unit :=
  if (Text.trim value.toList).isEmpty then .error ⟨field, "must not be blank"⟩
  else if 255 < value.length then .error ⟨field, "must be at most 255 characters"⟩
  else .ok ()

/-- Checks the amount of a contribution. -/
def checkAmount (a : Amount) : Except InvalidField Unit :=
  if a.isNegative then .error ⟨"amount", "must not be negative"⟩
  else if Amount.largest.minorUnits < a.minorUnits then
    .error ⟨"amount", "exceeds 10 integer digits"⟩
  else .ok ()

end Intake

/-- What is handed in for a new employee. -/
structure NewEmployee where
  /-- The first name, as handed in. -/
  firstname : String
  /-- The last name, as handed in. -/
  lastname : String
  /-- The number under which the employee is to be known. -/
  rssbNumber : String
  /-- The date of birth. -/
  dob : Date
  deriving DecidableEq, Repr

/-- What is handed in for a new employer. -/
structure NewEmployer where
  /-- The name, as handed in. -/
  name : String
  /-- The number under which the employer is to be known. -/
  matricule : String
  deriving DecidableEq, Repr

/-- What is handed in for a new contribution. -/
structure NewContribution where
  /-- The month that is paid for. -/
  period : Period
  /-- For whom it is paid. -/
  rssbNumber : String
  /-- By whom it is paid. -/
  matricule : String
  /-- How much is paid. -/
  amount : Amount
  deriving DecidableEq, Repr

/-- Checks a new employee, field by field. -/
def NewEmployee.validate (e : NewEmployee) : Except InvalidField Unit := do
  Intake.checkName "firstname" e.firstname
  Intake.checkName "lastname" e.lastname
  Intake.checkKey "rssbNumber" e.rssbNumber

/-- Checks a new employer, field by field. -/
def NewEmployer.validate (e : NewEmployer) : Except InvalidField Unit := do
  Intake.checkName "name" e.name
  Intake.checkKey "matricule" e.matricule

/-- Checks a new contribution, field by field. -/
def NewContribution.validate (c : NewContribution) : Except InvalidField Unit := do
  Intake.checkKey "rssbNumber" c.rssbNumber
  Intake.checkKey "matricule" c.matricule
  Intake.checkAmount c.amount

/-- The record of a new employee. -/
def NewEmployee.enter (e : NewEmployee) (stamp : Stamp) : Employee where
  id := stamp.id
  firstname := Text.trimmed e.firstname
  lastname := Text.trimmed e.lastname
  rssbNumber := e.rssbNumber
  dob := e.dob
  createdAt := stamp.now
  updatedAt := stamp.now

/-- The record of a new employer. -/
def NewEmployer.enter (e : NewEmployer) (stamp : Stamp) : Employer where
  id := stamp.id
  name := Text.trimmed e.name
  matricule := e.matricule
  createdAt := stamp.now
  updatedAt := stamp.now

/-- The record of a new contribution. -/
def NewContribution.enter (c : NewContribution) (stamp : Stamp) : Contribution where
  id := stamp.id
  period := c.period
  rssbNumber := c.rssbNumber
  matricule := c.matricule
  amount := c.amount
  createdAt := stamp.now
  updatedAt := stamp.now

end ContributionRegistry
