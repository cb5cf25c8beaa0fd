import ContributionRegistry.Database.Statement
import ContributionRegistry.Records.Basic
import ContributionRegistry.Records.Filter

/-!
# Tables of the registry

How records stand in tables: the columns in which a record is read back, and the statements that
look records up and insert them. Periods and amounts stand as texts. An employee or employer is
inserted only if its key is not taken; a contribution takes the place of one with the same
identifier.

**Two failures are told apart** in the rows of contributions. A cell that cannot be read is a
failure of the database; a text in it that is no period or no amount is one of what is stored. The
row is therefore read in two steps, first into texts (`ContributionTexts`) and then into a
contribution (`ContributionTexts.contribution`).
-/

namespace ContributionRegistry.Database

/-! ### Employees -/

/-- The types of the columns in which employees are read. -/
def employeeColumns : List ColumnType := [.text, .text, .text, .text, .date, .timestamp, .timestamp]

/-- The names of the columns in which employees are read. -/
def employeeNames : String := "id, firstname, lastname, rssb_number, dob, created_at, updated_at"

/-- An employee from a row. -/
def employeeOfRow : Row → Reading Employee
  | [id, firstname, lastname, rssbNumber, dob, createdAt, updatedAt] => do
    return {
      id := ← readText id
      firstname := ← readText firstname
      lastname := ← readText lastname
      rssbNumber := ← readText rssbNumber
      dob := ← readDate dob
      createdAt := ← readTimestamp createdAt
      updatedAt := ← readTimestamp updatedAt }
  | _ => .error "another number of cells"

/-- Looks up all employees. -/
def selectEmployees : Statement := { cql := s!"SELECT {employeeNames} FROM employees" }

/-- Looks up the employee with an RSSB number. -/
def selectEmployee (rssbNumber : String) : Statement where
  cql := s!"SELECT {employeeNames} FROM employees WHERE rssb_number = ?"
  values := [.text rssbNumber]

/-- Inserts an employee if its RSSB number is not taken. -/
def insertEmployee (e : Employee) : Statement where
  cql := "INSERT INTO employees ( rssb_number, id, firstname, lastname, dob, created_at, " ++
    "updated_at ) VALUES (?, ?, ?, ?, ?, ?, ?) IF NOT EXISTS"
  values := [.text e.rssbNumber, .text e.id, .text e.firstname, .text e.lastname, .ofDate e.dob,
    .ofTimestamp e.createdAt, .ofTimestamp e.updatedAt]

/-! ### Employers -/

/-- The types of the columns in which employers are read. -/
def employerColumns : List ColumnType := [.text, .text, .text, .timestamp, .timestamp]

/-- The names of the columns in which employers are read. -/
def employerNames : String := "id, name, matricule, created_at, updated_at"

/-- An employer from a row. -/
def employerOfRow : Row → Reading Employer
  | [id, name, matricule, createdAt, updatedAt] => do
    return {
      id := ← readText id
      name := ← readText name
      matricule := ← readText matricule
      createdAt := ← readTimestamp createdAt
      updatedAt := ← readTimestamp updatedAt }
  | _ => .error "another number of cells"

/-- Looks up all employers. -/
def selectEmployers : Statement := { cql := s!"SELECT {employerNames} FROM employers" }

/-- Looks up the employer with a matricule. -/
def selectEmployer (matricule : String) : Statement where
  cql := s!"SELECT {employerNames} FROM employers WHERE matricule = ?"
  values := [.text matricule]

/-- Inserts an employer if its matricule is not taken. -/
def insertEmployer (e : Employer) : Statement where
  cql := "INSERT INTO employers (matricule, id, name, created_at, updated_at) " ++
    "VALUES (?, ?, ?, ?, ?) IF NOT EXISTS"
  values := [.text e.matricule, .text e.id, .text e.name, .ofTimestamp e.createdAt,
    .ofTimestamp e.updatedAt]

/-! ### Contributions -/

/-- The types of the columns in which contributions are read. -/
def contributionColumns : List ColumnType :=
  [.text, .text, .text, .text, .text, .timestamp, .timestamp]

/-- The names of the columns in which contributions are read. -/
def contributionNames : String :=
  "id, period, rssb_number, matricule, amount, created_at, updated_at"

/-- A contribution whose period and amount are texts still. -/
structure ContributionTexts where
  /-- The identifier, which is the key of the table. -/
  id : String
  /-- The period as text. -/
  period : String
  /-- The number of the employee. -/
  rssbNumber : String
  /-- The matricule of the employer. -/
  matricule : String
  /-- The amount as text. -/
  amount : String
  /-- When the record was made. -/
  createdAt : Calendar.Timestamp
  /-- When the record was last changed. -/
  updatedAt : Calendar.Timestamp
  deriving DecidableEq, Repr

/-- The texts of a contribution. -/
def ContributionTexts.of (c : Contribution) : ContributionTexts where
  id := c.id
  period := c.period.text
  rssbNumber := c.rssbNumber
  matricule := c.matricule
  amount := c.amount.text
  createdAt := c.createdAt
  updatedAt := c.updatedAt

/-- The contribution that the texts are of; first the period is read, then the amount. -/
def ContributionTexts.contribution (t : ContributionTexts) : Attempt StoredFault Contribution := do
  let period ← Attempt.ofExcept ((Period.parse t.period).mapError StoredFault.period)
  let amount ← (Amount.parse t.amount).restate StoredFault.amount
  return {
    id := t.id, period, rssbNumber := t.rssbNumber, matricule := t.matricule, amount
    createdAt := t.createdAt, updatedAt := t.updatedAt }

/-- The texts of a contribution from a row. -/
def contributionTextsOfRow : Row → Reading ContributionTexts
  | [id, period, rssbNumber, matricule, amount, createdAt, updatedAt] => do
    return {
      id := ← readText id
      period := ← readText period
      rssbNumber := ← readText rssbNumber
      matricule := ← readText matricule
      amount := ← readText amount
      createdAt := ← readTimestamp createdAt
      updatedAt := ← readTimestamp updatedAt }
  | _ => .error "another number of cells"

/-- A contribution from a row. A cell that cannot be read is a failure of the database, a text that
cannot be read one of what is stored. -/
def contributionOfRow (row : Row) : Attempt StoreError Contribution :=
  match contributionTextsOfRow row with
  | .ok texts => texts.contribution.restate StoreError.serialization
  | .error reason => .refuse (.database reason)

/-- Looks up all contributions. -/
def selectContributions : String := s!"SELECT {contributionNames} FROM contributions"

/-- Looks up the contributions that a filter lets through. -/
def selectBy : ContributionFilter → Statement
  | .all => { cql := selectContributions }
  | .byRssbNumber key =>
    { cql := s!"{selectContributions} WHERE rssb_number = ?", values := [.text key] }
  | .byPeriod period =>
    { cql := s!"{selectContributions} WHERE period = ?", values := [.text period.text] }
  | .byMatricule key =>
    { cql := s!"{selectContributions} WHERE matricule = ?", values := [.text key] }

/-- Inserts a contribution. -/
def insertContribution (c : Contribution) : Statement where
  cql := "INSERT INTO contributions ( id, period, rssb_number, matricule, amount, created_at, " ++
    "updated_at ) VALUES (?, ?, ?, ?, ?, ?, ?)"
  values := [.text c.id, .text c.period.text, .text c.rssbNumber, .text c.matricule,
    .text c.amount.text, .ofTimestamp c.createdAt, .ofTimestamp c.updatedAt]

end ContributionRegistry.Database
