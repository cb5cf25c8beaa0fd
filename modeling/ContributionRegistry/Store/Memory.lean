import ContributionRegistry.Store.Basic
import ContributionRegistry.Store.Shelf

/-!
# A registry in memory

The store whose state is three shelves. Its actions never fail but for conflicts, and only `create`
changes anything.

Listings of employees and employers are sorted by key before they are sorted by time, so that they
do not depend on the order of insertion. Contributions have no such key: those of one period and one
time are listed as they were inserted.
-/

namespace ContributionRegistry

/-- The records of a registry, held in memory. -/
structure MemoryStore where
  /-- The employees, by RSSB number. -/
  employees : Shelf Employee
  /-- The employers, by matricule. -/
  employers : Shelf Employer
  /-- The contributions, by identifier. -/
  contributions : Shelf Contribution

namespace MemoryStore

/-- The registry with no records. -/
def empty : MemoryStore := ⟨.empty, .empty, .empty⟩

/-- The stores on this state. -/
def stores : MasterStore MemoryStore where
  employees := {
    find := fun key s ↦ (.ok (s.employees.find? key), s)
    all := fun s ↦ (.ok s.employees.employees, s)
    create := fun e s ↦
      let (outcome, shelf) := s.employees.create e
      (Attempt.ofExcept outcome, { s with employees := shelf }) }
  employers := {
    find := fun key s ↦ (.ok (s.employers.find? key), s)
    all := fun s ↦ (.ok s.employers.employers, s)
    create := fun e s ↦
      let (outcome, shelf) := s.employers.create e
      (Attempt.ofExcept outcome, { s with employers := shelf }) }
  contributions := {
    find := fun filter s ↦ (.ok (s.contributions.contributions filter), s)
    create := fun c s ↦
      let (outcome, shelf) := s.contributions.create c
      (Attempt.ofExcept outcome, { s with contributions := shelf }) }

end MemoryStore

end ContributionRegistry
