import ContributionRegistry.Json.Decoding

/-!
# Failures of stores and caches

What a store or a cache reports when it cannot do what it is asked to. A conflict is the one failure
that says something about the records: their key is taken. The services therefore treat it apart
from the others, and so does a lookup in the replica, which takes it for news that somebody else was
faster.

Failures have a wording (`StoreError.message`), as far as there is one: the reason why a text is no
JSON is not given.
-/

namespace ContributionRegistry

/-- Why a stored text could not be turned into a record, or a record into a text. -/
inductive StoredFault where
  | json (fault : Json.DecodeFault)
  | period (reason : InvalidPeriod)
  | amount (reason : InvalidAmount)
  /-- A reason in words. -/
  | other (reason : String)
  deriving DecidableEq, Repr

/-- The wording of each fault. For a text that is no JSON there is none that could be relied on. -/
def StoredFault.message? : StoredFault → Option String
  | .json .malformed => none
  | .json (.unfit _ complaint) => some complaint.message
  | .period reason => some reason.message
  | .amount reason => some reason.message
  | .other reason => some reason

/-- Why a store or a cache failed. -/
inductive StoreError where
  /-- The database failed. -/
  | database (reason : String)
  /-- The cache server failed. -/
  | cacheServer (reason : String)
  /-- What is stored cannot be read, or what is to be stored not be written. -/
  | serialization (fault : StoredFault)
  /-- The key of a new record is taken. -/
  | conflict (entity key : String)
  | invalidConfig (reason : String)
  deriving DecidableEq, Repr

namespace StoreError

/-- Whether the failure is a conflict. -/
def isConflict : StoreError → Bool
  | .conflict .. => true
  | _ => false

/-- The wording of each failure, as far as there is one. -/
def message? : StoreError → Option String
  | .database reason => some s!"ScyllaDB error: {reason}"
  | .cacheServer reason => some s!"Redis error: {reason}"
  | .serialization fault => fault.message?.map fun m ↦ s!"Serialization error: {m}"
  | .conflict entity key => some s!"Conflict: {entity} with key {key} already exists"
  | .invalidConfig reason => some s!"Invalid configuration: {reason}"

/-- The wording of each failure; a text that is no JSON gives no reason. -/
def message (e : StoreError) : String := e.message?.getD "Serialization error: "

/-! ### Small facts -/

/-- What the test for conflicts tests. -/
theorem isConflict_iff (e : StoreError) :
    e.isConflict = true ↔ ∃ entity key, e = .conflict entity key := by
  cases e <;> simp [isConflict]

end StoreError

end ContributionRegistry
