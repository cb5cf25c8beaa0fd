import ContributionRegistry.Cache.Basic
import ContributionRegistry.MasterData.Basic

/-!
# Contribution lists with a time to live

A lookup of an employee's contributions is answered from the cache; what is not there is asked of
master data and kept for a fixed time. An entry that cannot be read counts as missing, and it does
not matter if an entry cannot be written: trouble with the cache only costs a question to master
data.

A lookup goes through at most three steps, each one call: *reading* the cache, *fetching* the list
and *writing* it. Between two steps other lookups may take theirs, so the steps are what is defined
first (`Lookup.step`); a lookup that nobody disturbs is the steps in a row (`fetch`).

**The tally.** A lookup is a hit or a miss, and it is counted in the step that reads the cache,
before master data is asked. Reading that is abandoned is neither. What a lookup needs, the place of
the tally included, is one record (`ListCounter`), so lookups can be told of any cache and any
source of lists.

**The figures** (`stats`) are the tally and the number of keys in the cache that belong to lists.
Unlike a lookup they cannot do without the cache: where the count fails, the figures do.
-/

namespace ContributionRegistry.Cache

/-- What the keys of contribution lists start with. -/
def listKeyStart : String := "contributions:"

/-- The key of an employee's contribution list. -/
def listKey (rssbNumber : String) : String := listKeyStart ++ rssbNumber

/-- The time to live of a list where none is set, in milliseconds. -/
def defaultTtl : Nat := 60000

/-- How many lookups were answered from the cache, and how many were not. -/
structure Tally where
  /-- How many lookups were answered from the cache. -/
  hits : Nat := 0
  /-- How many lookups were not. -/
  misses : Nat := 0
  deriving DecidableEq, Repr

/-- What lookups of contribution lists need: the cache, master data, the time to live and the place
of the tally. -/
structure ListCounter (σ : Type) where
  /-- Where lists are kept for a time. -/
  cache : TextCache σ
  /-- Who is asked for lists that are not kept. -/
  source : MasterData σ
  /-- How long lists are kept, in milliseconds. -/
  ttl : Nat
  /-- The tally in a state. -/
  tally : σ → Tally
  /-- The state with another tally. -/
  setTally : Tally → σ → σ

namespace ListCounter

variable {σ : Type}

/-- Counts a lookup that the cache answered. -/
def hit (d : ListCounter σ) (s : σ) : σ :=
  d.setTally { d.tally s with hits := (d.tally s).hits + 1 } s

/-- Counts a lookup that the cache did not answer. -/
def miss (d : ListCounter σ) (s : σ) : σ :=
  d.setTally { d.tally s with misses := (d.tally s).misses + 1 } s

end ListCounter

/-- A lookup under way. -/
inductive Lookup where
  /-- About to read the cache. -/
  | reading (key : String)
  /-- About to ask master data. -/
  | fetching (key : String)
  /-- About to write a list to the cache. -/
  | writing (key : String) (list : List Contribution)
  /-- Come out. -/
  | settled (outcome : Attempt RemoteError (List Contribution))

namespace Lookup

/-- One call, and what follows from it. -/
def step {σ : Type} (d : ListCounter σ) : Lookup → σ → Lookup × σ
  | .reading key, s =>
    match d.cache.getList (listKey key) s with
    | (.ok (some list), s) => (.settled (.ok list), d.hit s)
    | (.ok none, s) | (.error (.refused _), s) => (.fetching key, d.miss s)
    | (.error .abandoned, s) => (.settled (.error .abandoned), s)
  | .fetching key, s =>
    match d.source.contributions key s with
    | (.ok list, s) => (.writing key list, s)
    | (.error e, s) => (.settled (.error e), s)
  | .writing key list, s =>
    match d.cache.setList (listKey key) list d.ttl s with
    | (.ok (), s) | (.error (.refused _), s) => (.settled (.ok list), s)
    | (.error .abandoned, s) => (.settled (.error .abandoned), s)
  | .settled outcome, s => (.settled outcome, s)

/-- How a lookup comes out that nobody disturbs. No lookup takes more steps than it has left. -/
def finish {σ : Type} (d : ListCounter σ) :
    Nat → Lookup → σ → Attempt RemoteError (List Contribution) × σ
  | _, .settled outcome, s => (outcome, s)
  | 0, _, s => (.error .abandoned, s)
  | steps + 1, lookup, s =>
    let (lookup, s) := lookup.step d s
    finish d steps lookup s

end Lookup

/-- Why contributions, or the figures about them, could not be had. -/
inductive ListError where
  /-- They were not cached, and master data could not be had. -/
  | source (cause : RemoteError)
  /-- The cache failed. -/
  | store (cause : StoreError)
  deriving DecidableEq, Repr

/-- The wording of each failure. -/
def ListError.message : ListError → String
  | .source cause => s!"Master data unavailable: {cause.message}"
  | .store cause => s!"Cache store error: {cause.message}"

/-- Looks up an employee's contributions, in the order of master data. -/
def fetch {σ : Type} (d : ListCounter σ) (key : String) :
    Action σ ListError (List Contribution) :=
  Action.finish (Lookup.finish d 3 (.reading key)) (Attempt.restate .source)

/-- Figures about the cache. -/
structure Stats where
  /-- How many lookups were answered from the cache. -/
  hits : Nat
  /-- How many lookups were not. -/
  misses : Nat
  /-- How many contribution lists the cache holds. -/
  keys : Nat
  deriving DecidableEq, Repr

/-- The figures as they stand. -/
def stats {σ : Type} (d : ListCounter σ) : Action σ ListError Stats := fun s ↦
  match d.cache.count (listKeyStart ++ "*") s with
  | (.ok keys, s) => (.ok ⟨(d.tally s).hits, (d.tally s).misses, keys⟩, s)
  | (.error e, s) => (.error (e.map .store), s)

end ContributionRegistry.Cache
