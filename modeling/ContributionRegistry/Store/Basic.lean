import ContributionRegistry.Action
import ContributionRegistry.Records.Filter
import ContributionRegistry.Store.Error

/-!
# Stores of records

What a store of records can be asked for, as records of actions on a state. Employees and employers
are looked up by key and listed; contributions are listed by filter. Creating a record gives back
the record as stored.

The services are defined on these records of actions, whatever the state is made of: shelves in
memory, shelves behind switches, or the conversation with a database. What a store has to do beyond
having these actions is not said here but where a fact about a service depends on it.
-/

namespace ContributionRegistry

/-- A store of records that are looked up by key. -/
structure RecordStore (σ ρ : Type) where
  /-- The record under a key, if there is one. -/
  find : String → Action σ StoreError (Option ρ)
  /-- All records, in the order of a listing. -/
  all : Action σ StoreError (List ρ)
  /-- Stores a new record, unless its key is taken. -/
  create : ρ → Action σ StoreError ρ

/-- A store of contributions. -/
structure ContributionStore (σ : Type) where
  /-- The contributions that a filter lets through, in the order of a listing. -/
  find : ContributionFilter → Action σ StoreError (List Contribution)
  /-- Stores a new contribution, unless its identifier is taken. -/
  create : Contribution → Action σ StoreError Contribution

/-- The stores of a whole registry. -/
structure MasterStore (σ : Type) where
  /-- The employees, by RSSB number. -/
  employees : RecordStore σ Employee
  /-- The employers, by matricule. -/
  employers : RecordStore σ Employer
  /-- The contributions. -/
  contributions : ContributionStore σ

end ContributionRegistry
