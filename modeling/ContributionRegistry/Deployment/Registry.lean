import ContributionRegistry.Store.Basic
import ContributionRegistry.Store.Switched

/-!
# A registry

A registry in memory whose three stores can be made to fail, each by itself.

The stores of employees and of employers differ only in where the shelf is and in what order it is
listed, so they are one definition (`Registry.keyedStore`). The store of contributions is looked up
by a filter and not by key. None of the calls can be abandoned: each one gives what the shelf gives,
or the failure that its switch stands for.
-/

namespace ContributionRegistry.Deployment

/-- The state of a registry. -/
structure Registry where
  /-- The employees, by RSSB number. -/
  employees : SwitchedShelf Employee := {}
  /-- The employers, by matricule. -/
  employers : SwitchedShelf Employer := {}
  /-- The contributions, by identifier. -/
  contributions : SwitchedShelf Contribution := {}

namespace Registry

variable {ρ : Type} [Keyed ρ]

/-- An action on a shelf of a registry. -/
def onShelf {α : Type} (shelf : Registry → SwitchedShelf ρ)
    (put : SwitchedShelf ρ → Registry → Registry)
    (act : SwitchedShelf ρ → Except StoreError α × SwitchedShelf ρ) :
    Action Registry StoreError α := fun r ↦
  let (outcome, changed) := act (shelf r)
  (Attempt.ofExcept outcome, put changed r)

/-- The store of a shelf that is looked up by key and listed by `view`. -/
def keyedStore (shelf : Registry → SwitchedShelf ρ) (put : SwitchedShelf ρ → Registry → Registry)
    (view : Shelf ρ → List ρ) : RecordStore Registry ρ where
  find key := onShelf shelf put (SwitchedShelf.find key)
  all := onShelf shelf put (SwitchedShelf.list view)
  create record := onShelf shelf put (SwitchedShelf.create record)

/-- The stores of a registry. -/
def stores : MasterStore Registry where
  employees := keyedStore employees (fun employees r ↦ { r with employees }) Shelf.employees
  employers := keyedStore employers (fun employers r ↦ { r with employers }) Shelf.employers
  contributions := {
    find := fun filter ↦ onShelf contributions (fun contributions r ↦ { r with contributions })
      (SwitchedShelf.list fun shelf ↦ shelf.contributions filter)
    create := fun c ↦ onShelf contributions (fun contributions r ↦ { r with contributions })
      (SwitchedShelf.create c) }

end Registry

end ContributionRegistry.Deployment
