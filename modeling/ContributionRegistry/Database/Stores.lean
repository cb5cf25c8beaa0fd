import ContributionRegistry.Database.Schema
import ContributionRegistry.Database.Tables
import ContributionRegistry.Records.Order
import ContributionRegistry.Store.Basic
import ContributionRegistry.Store.Shelf

/-!
# A registry in a database

The stores of a registry as conversations with a database. Rows come in any order and are put into
that of a listing.

Each call on a store is one statement and the reading of its answer (`Session.ask`). The readers are
shared by the kinds of record: the record of the first row for a lookup by key (`firstOf`), those of
all rows for a listing (`allOf`), and for an insertion what the answer says about it. Employees and
employers are inserted on condition, and an answer that the condition did not hold is a conflict
(`insertedIf`); contributions are inserted without one, so all that counts is that there was no
failure (`inserted`).
-/

namespace ContributionRegistry.Database

variable {σ ρ : Type}

/-- Runs a statement and reads its answer. -/
def Session.ask {α : Type} (session : Session σ) (statement : Statement)
    (read : Answer → Attempt StoreError α) : Action σ StoreError α := fun s ↦
  let (answer, s) := session.run statement s
  (read answer, s)

/-- What reading a row gives; an unreadable one is a failure of the database. -/
def ofReading {α : Type} (r : Reading α) : Attempt StoreError α :=
  Attempt.ofExcept (r.mapError StoreError.database)

/-- The record in the first row of an answer. -/
def firstOf (columns : List ColumnType) (ofRow : Row → Reading ρ) (answer : Answer) :
    Attempt StoreError (Option ρ) := do
  match ← Attempt.ofExcept (answer.rowsOf columns) with
  | [] => return none
  | row :: _ => return some (← ofReading (ofRow row))

/-- The records in all rows of an answer. The first row that cannot be read decides. -/
def allOf (columns : List ColumnType) (ofRow : Row → Attempt StoreError ρ) (answer : Answer) :
    Attempt StoreError (List ρ) := do
  (← Attempt.ofExcept (answer.rowsOf columns)).mapM ofRow

/-- The record, if the answer is that it was inserted. -/
def insertedIf [Keyed ρ] (record : ρ) (answer : Answer) : Attempt StoreError ρ := do
  if ← Attempt.ofExcept answer.applied then return record else .refuse (Shelf.conflict record)

/-- The record, unless the answer is a failure. -/
def inserted (record : ρ) : Answer → Attempt StoreError ρ
  | .failed reason => .refuse (.database reason)
  | .done | .rows .. => .ok record

/-- The stores of a registry in a database. -/
def Session.stores (session : Session σ) : MasterStore σ where
  employees := {
    find := fun key ↦ session.ask (selectEmployee key) (firstOf employeeColumns employeeOfRow)
    all := session.ask selectEmployees fun answer ↦
      (allOf employeeColumns (ofReading ∘ employeeOfRow) answer).map Employee.listing
    create := fun e ↦ session.ask (insertEmployee e) (insertedIf e) }
  employers := {
    find := fun key ↦ session.ask (selectEmployer key) (firstOf employerColumns employerOfRow)
    all := session.ask selectEmployers fun answer ↦
      (allOf employerColumns (ofReading ∘ employerOfRow) answer).map Employer.listing
    create := fun e ↦ session.ask (insertEmployer e) (insertedIf e) }
  contributions := {
    find := fun filter ↦ session.ask (selectBy filter) fun answer ↦
      (allOf contributionColumns contributionOfRow answer).map Contribution.listing
    create := fun c ↦ session.ask (insertContribution c) (inserted c) }

end ContributionRegistry.Database
