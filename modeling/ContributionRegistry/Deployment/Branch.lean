import ContributionRegistry.Cache.ContributionLists
import ContributionRegistry.Cache.Switched
import ContributionRegistry.MasterData.Basic
import ContributionRegistry.Replica.Resolution
import ContributionRegistry.Store.Switched

/-!
# A branch

A branch office in memory: a replica of employees, a cache of contribution lists, and the
surroundings that it has its master data from. Replica and cache can be made to fail; what master
data answers is up to the surroundings, whatever they are.

The type of the surroundings is a parameter. They may be answers laid down beforehand, or a registry
at the other end of a network; what is proved of a branch in any surroundings holds of both.

`Branch.desk` is where employees are looked up and `Branch.lists` where contribution lists are. Both
work on the state of the whole branch, so lookups of the two kinds, changes of the surroundings and
the passing of time can be told in one history.
-/

namespace ContributionRegistry.Deployment

open Calendar (Timestamp)
open Cache (ListCounter SwitchedCache Tally)
open Replica (Desk)

/-- The state of a branch, with the time of day and the surroundings. -/
structure Branch (ω : Type) where
  /-- The time of day, which new records of the replica are stamped with. -/
  now : Timestamp
  /-- The employees that the branch has of its own. -/
  replica : SwitchedShelf Employee := {}
  /-- The contribution lists that are kept for a time, as texts. -/
  cache : SwitchedCache := {}
  /-- How often the cache has answered a lookup, and how often it has not. -/
  tally : Tally := {}
  /-- Where master data comes from. -/
  supply : ω

namespace Branch

variable {ω : Type}

/-- The replica of a branch. -/
def employees : RecordStore (Branch ω) Employee where
  find key b :=
    let (outcome, replica) := b.replica.find key
    (Attempt.ofExcept outcome, { b with replica })
  all b :=
    let (outcome, replica) := b.replica.list Shelf.employees
    (Attempt.ofExcept outcome, { b with replica })
  create e b :=
    let (outcome, replica) := b.replica.create e
    (Attempt.ofExcept outcome, { b with replica })

/-- The cache of a branch. -/
def texts : TextCache (Branch ω) where
  get key := Action.within cache (fun cache b ↦ { b with cache }) (SwitchedCache.texts.get key)
  set key text ttl :=
    Action.within cache (fun cache b ↦ { b with cache }) (SwitchedCache.texts.set key text ttl)
  count pattern :=
    Action.within cache (fun cache b ↦ { b with cache }) (SwitchedCache.texts.count pattern)

/-- Master data of the surroundings as a branch reaches it. -/
def source (m : MasterData ω) : MasterData (Branch ω) where
  employee key := Action.within supply (fun supply b ↦ { b with supply }) (m.employee key)
  contributions key :=
    Action.within supply (fun supply b ↦ { b with supply }) (m.contributions key)

/-- Where employees are looked up. -/
def desk (m : MasterData ω) : Desk (Branch ω) := ⟨employees, source m, now⟩

/-- Where contribution lists are looked up. -/
def lists (m : MasterData ω) (ttl : Nat) : ListCounter (Branch ω) where
  cache := texts
  source := source m
  ttl := ttl
  tally := tally
  setTally tally b := { b with tally }

end Branch

end ContributionRegistry.Deployment
