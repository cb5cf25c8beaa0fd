import ContributionRegistry.Store.Shelf

/-!
# Shelves that can be made to fail

A shelf behind switches. While a switch is on, the calls it stands for fail and leave the records
alone; a number of single lookups can be made to answer wrongly that there is nothing. All calls are
counted, failing ones included.

The wrong answers are those of a store that has not yet heard of a record. They bring a lookup to
keep an employee who is there already, and so to the second search after a conflict. Each lookup
that gets one uses it up, and listings never do.
-/

namespace ContributionRegistry

/-- Which calls on a store fail, and how many of the next single lookups answer wrongly that there
is nothing. -/
structure StoreFaults where
  /-- Whether lookups and listings fail. -/
  find : Bool := false
  /-- Whether creations fail. -/
  create : Bool := false
  /-- How many of the next single lookups answer that there is nothing. -/
  hidden : Nat := 0
  deriving DecidableEq, Repr

/-- A shelf behind switches, with counts of the calls on it. -/
structure SwitchedShelf (ρ : Type) [Keyed ρ] where
  /-- The records behind the switches. -/
  shelf : Shelf ρ := .empty
  /-- How the switches stand. -/
  faults : StoreFaults := {}
  /-- Lookups and listings so far. -/
  finds : Nat := 0
  /-- Creations attempted so far. -/
  creates : Nat := 0

namespace SwitchedShelf

variable {ρ : Type} [Keyed ρ]

/-- The failure that the switches cause. -/
def fault : StoreError := .database "no hosts available"

/-- The record under a key. -/
def find (key : String) (s : SwitchedShelf ρ) :
    Except StoreError (Option ρ) × SwitchedShelf ρ :=
  let counted := { s with finds := s.finds + 1 }
  if s.faults.find then (.error fault, counted)
  else match s.faults.hidden with
    | n + 1 => (.ok none, { counted with faults := { s.faults with hidden := n } })
    | 0 => (.ok (s.shelf.find? key), counted)

/-- What `view` shows of the shelf. -/
def list {α : Type} (view : Shelf ρ → α) (s : SwitchedShelf ρ) :
    Except StoreError α × SwitchedShelf ρ :=
  let counted := { s with finds := s.finds + 1 }
  if s.faults.find then (.error fault, counted) else (.ok (view s.shelf), counted)

/-- Puts a record on the shelf. -/
def create (r : ρ) (s : SwitchedShelf ρ) : Except StoreError ρ × SwitchedShelf ρ :=
  let counted := { s with creates := s.creates + 1 }
  if s.faults.create then (.error fault, counted)
  else
    let (outcome, shelf) := s.shelf.create r
    (outcome, { counted with shelf })

end SwitchedShelf

end ContributionRegistry
