import ContributionRegistry.Json.Decoding
import ContributionRegistry.Json.Writer
import ContributionRegistry.Records.Basic
import ContributionRegistry.Records.Intake

/-!
# Records as JSON

The layout of each record, its reading and its writing. A record is decoded by opening it as its
layout says and reading its fields in order. Written records are objects with all their fields in
the order of the layout; amounts are written as text.

Reading is laxer than writing. Objects may have their fields in any order and others among them,
arrays are taken as well, amounts may be numbers, dates of birth timestamps, and what another
service tells of an employee may lack its times. That every written record is read as itself is
proved elsewhere, for each kind of record.
-/

namespace ContributionRegistry

open Json (Decoded Field Layout Opened fitting member ofText)

/-! ### Fields -/

/-- A field with a string. -/
def textField (name : String) : Field := { name, fits := fitting Json.toText }

/-- A field with a period. -/
def periodField (name : String) : Field := { name, fits := fitting Json.toPeriod }

/-- A field with an amount. -/
def amountField (name : String) : Field := { name, fits := fitting Json.toAmount }

/-- A field with a date of birth. -/
def birthDateField (name : String) : Field := { name, fits := fitting Json.toBirthDate }

/-- A field with a timestamp. -/
def timestampField (name : String) : Field := { name, fits := fitting Json.toTimestamp }

/-- A field with a timestamp that may be left out or `null`. -/
def optionalTimestampField (name : String) : Field :=
  { name, fits := fitting Json.toTimestamp?, required := false }

/-! ### Employees -/

/-- The layout of an employee. -/
def Employee.layout : Layout where
  name := "Employee"
  fields := [textField "id", textField "firstname", textField "lastname", textField "rssbNumber",
    birthDateField "dob", timestampField "createdAt", timestampField "updatedAt"]

/-- Reads an employee's fields in order. -/
def Employee.read (opened : Opened) : Decoded Employee := do
  return {
    id := ← opened.get "id" Json.toText
    firstname := ← opened.get "firstname" Json.toText
    lastname := ← opened.get "lastname" Json.toText
    rssbNumber := ← opened.get "rssbNumber" Json.toText
    dob := ← opened.get "dob" Json.toBirthDate
    createdAt := ← opened.get "createdAt" Json.toTimestamp
    updatedAt := ← opened.get "updatedAt" Json.toTimestamp }

/-- Decodes an employee. -/
def Employee.ofJson : Json → Decoded Employee := Employee.layout.decode Employee.read

/-- An employee as a tree. -/
def Employee.toJson (e : Employee) : Json :=
  .object [member "id" (ofText e.id), member "firstname" (ofText e.firstname),
    member "lastname" (ofText e.lastname), member "rssbNumber" (ofText e.rssbNumber),
    member "dob" (ofText e.dob.text), member "createdAt" (ofText e.createdAt.text),
    member "updatedAt" (ofText e.updatedAt.text)]

/-- The layout of an employee told of by another service. -/
def RemoteEmployee.layout : Layout where
  name := "RemoteEmployee"
  fields := [textField "id", textField "firstname", textField "lastname", textField "rssbNumber",
    birthDateField "dob", optionalTimestampField "createdAt", optionalTimestampField "updatedAt"]

/-- Reads such an employee's fields in order. -/
def RemoteEmployee.read (opened : Opened) : Decoded RemoteEmployee := do
  return {
    id := ← opened.get "id" Json.toText
    firstname := ← opened.get "firstname" Json.toText
    lastname := ← opened.get "lastname" Json.toText
    rssbNumber := ← opened.get "rssbNumber" Json.toText
    dob := ← opened.get "dob" Json.toBirthDate
    createdAt := ← opened.get "createdAt" Json.toTimestamp?
    updatedAt := ← opened.get "updatedAt" Json.toTimestamp? }

/-- Decodes an employee told of by another service. -/
def RemoteEmployee.ofJson : Json → Decoded RemoteEmployee :=
  RemoteEmployee.layout.decode RemoteEmployee.read

/-- The layout of a new employee. -/
def NewEmployee.layout : Layout where
  name := "NewEmployee"
  fields := [textField "firstname", textField "lastname", textField "rssbNumber",
    birthDateField "dob"]

/-- Reads a new employee's fields in order. -/
def NewEmployee.read (opened : Opened) : Decoded NewEmployee := do
  return {
    firstname := ← opened.get "firstname" Json.toText
    lastname := ← opened.get "lastname" Json.toText
    rssbNumber := ← opened.get "rssbNumber" Json.toText
    dob := ← opened.get "dob" Json.toBirthDate }

/-- Decodes a new employee. -/
def NewEmployee.ofJson : Json → Decoded NewEmployee := NewEmployee.layout.decode NewEmployee.read

/-- A new employee as a tree. -/
def NewEmployee.toJson (e : NewEmployee) : Json :=
  .object [member "firstname" (ofText e.firstname), member "lastname" (ofText e.lastname),
    member "rssbNumber" (ofText e.rssbNumber), member "dob" (ofText e.dob.text)]

/-! ### Employers -/

/-- The layout of an employer. -/
def Employer.layout : Layout where
  name := "Employer"
  fields := [textField "id", textField "name", textField "matricule", timestampField "createdAt",
    timestampField "updatedAt"]

/-- Reads an employer's fields in order. -/
def Employer.read (opened : Opened) : Decoded Employer := do
  return {
    id := ← opened.get "id" Json.toText
    name := ← opened.get "name" Json.toText
    matricule := ← opened.get "matricule" Json.toText
    createdAt := ← opened.get "createdAt" Json.toTimestamp
    updatedAt := ← opened.get "updatedAt" Json.toTimestamp }

/-- Decodes an employer. -/
def Employer.ofJson : Json → Decoded Employer := Employer.layout.decode Employer.read

/-- An employer as a tree. -/
def Employer.toJson (e : Employer) : Json :=
  .object [member "id" (ofText e.id), member "name" (ofText e.name),
    member "matricule" (ofText e.matricule), member "createdAt" (ofText e.createdAt.text),
    member "updatedAt" (ofText e.updatedAt.text)]

/-- The layout of a new employer. -/
def NewEmployer.layout : Layout where
  name := "NewEmployer"
  fields := [textField "name", textField "matricule"]

/-- Reads a new employer's fields in order. -/
def NewEmployer.read (opened : Opened) : Decoded NewEmployer := do
  return {
    name := ← opened.get "name" Json.toText
    matricule := ← opened.get "matricule" Json.toText }

/-- Decodes a new employer. -/
def NewEmployer.ofJson : Json → Decoded NewEmployer := NewEmployer.layout.decode NewEmployer.read

/-- A new employer as a tree. -/
def NewEmployer.toJson (e : NewEmployer) : Json :=
  .object [member "name" (ofText e.name), member "matricule" (ofText e.matricule)]

/-! ### Contributions -/

/-- The layout of a contribution. -/
def Contribution.layout : Layout where
  name := "Contribution"
  fields := [textField "id", periodField "period", textField "rssbNumber", textField "matricule",
    amountField "amount", timestampField "createdAt", timestampField "updatedAt"]

/-- Reads a contribution's fields in order. -/
def Contribution.read (opened : Opened) : Decoded Contribution := do
  return {
    id := ← opened.get "id" Json.toText
    period := ← opened.get "period" Json.toPeriod
    rssbNumber := ← opened.get "rssbNumber" Json.toText
    matricule := ← opened.get "matricule" Json.toText
    amount := ← opened.get "amount" Json.toAmount
    createdAt := ← opened.get "createdAt" Json.toTimestamp
    updatedAt := ← opened.get "updatedAt" Json.toTimestamp }

/-- Decodes a contribution. -/
def Contribution.ofJson : Json → Decoded Contribution :=
  Contribution.layout.decode Contribution.read

/-- A contribution as a tree. -/
def Contribution.toJson (c : Contribution) : Json :=
  .object [member "id" (ofText c.id), member "period" (ofText c.period.text),
    member "rssbNumber" (ofText c.rssbNumber), member "matricule" (ofText c.matricule),
    member "amount" (ofText c.amount.text), member "createdAt" (ofText c.createdAt.text),
    member "updatedAt" (ofText c.updatedAt.text)]

/-- Decodes a list of contributions. -/
def Contribution.listOfJson : Json → Decoded (List Contribution) :=
  Json.toList Contribution.ofJson

/-- A list of contributions as a tree. -/
def Contribution.listToJson (cs : List Contribution) : Json :=
  .array (cs.map Contribution.toJson)

/-- The layout of a new contribution. -/
def NewContribution.layout : Layout where
  name := "NewContribution"
  fields := [periodField "period", textField "rssbNumber", textField "matricule",
    amountField "amount"]

/-- Reads a new contribution's fields in order. -/
def NewContribution.read (opened : Opened) : Decoded NewContribution := do
  return {
    period := ← opened.get "period" Json.toPeriod
    rssbNumber := ← opened.get "rssbNumber" Json.toText
    matricule := ← opened.get "matricule" Json.toText
    amount := ← opened.get "amount" Json.toAmount }

/-- Decodes a new contribution. -/
def NewContribution.ofJson : Json → Decoded NewContribution :=
  NewContribution.layout.decode NewContribution.read

/-- A new contribution as a tree. -/
def NewContribution.toJson (c : NewContribution) : Json :=
  .object [member "period" (ofText c.period.text), member "rssbNumber" (ofText c.rssbNumber),
    member "matricule" (ofText c.matricule), member "amount" (ofText c.amount.text)]

end ContributionRegistry
