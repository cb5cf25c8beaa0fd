import ContributionRegistry.Cache.Entries

/-!
# A cache that can be made to fail

A cache in memory behind switches. While a switch is on, the calls it stands for fail and leave the
entries alone; the other calls work as ever. It is the cache of the branch whose behaviour in
trouble is studied: every combination of faults is a position of the switches, and they can be moved
between any two calls.
-/

namespace ContributionRegistry.Cache

/-- Which calls on a cache fail. -/
structure CacheFaults where
  /-- Whether looking up a text fails. -/
  get : Bool := false
  /-- Whether storing a text fails. -/
  set : Bool := false
  /-- Whether counting keys fails. -/
  count : Bool := false
  deriving DecidableEq, Repr

/-- A cache in memory behind switches. -/
structure SwitchedCache where
  /-- The cache behind the switches. -/
  memory : MemoryCache := ⟨0, []⟩
  /-- How the switches stand. -/
  faults : CacheFaults := {}
  deriving Repr

namespace SwitchedCache

/-- The failure that the switches cause. -/
def fault : StoreError := .cacheServer "connection reset"

/-- An action on the memory, unless it is switched off. -/
def guarded {α : Type} (off : CacheFaults → Bool) (act : Action MemoryCache StoreError α) :
    Action SwitchedCache StoreError α := fun c ↦
  if off c.faults then (Attempt.refuse fault, c)
  else
    let (outcome, memory) := act c.memory
    (outcome, { c with memory })

/-- The cache on this state. -/
def texts : TextCache SwitchedCache where
  get key := guarded CacheFaults.get (MemoryCache.texts.get key)
  set key text ttl := guarded CacheFaults.set (MemoryCache.texts.set key text ttl)
  count pattern := guarded CacheFaults.count (MemoryCache.texts.count pattern)

end SwitchedCache

end ContributionRegistry.Cache
