import ContributionRegistry.Action
import ContributionRegistry.Records.Wire
import ContributionRegistry.Store.Error

/-!
# Caches of texts

What a cache of texts can be asked for, and the keeping of contribution lists in it as JSON texts.
Times to live are in milliseconds.

A cache is a record of three actions on one state (`TextCache`). There is one in memory, one that a
server keeps and one behind switches, and everything about lookups and figures is said of the
record, so that it holds of all of them.

Lists are written and read here (`TextCache.setList`, `TextCache.getList`) and not by the caches: a
cache does not know what its texts mean. A text that cannot be read as a list is a failure of the
lookup, unlike a text that is missing, and reading one with a torn amount is abandoned.
-/

namespace ContributionRegistry

/-- A cache of texts that expire. -/
structure TextCache (σ : Type) where
  /-- The text under a key, unless there is none or it has expired. -/
  get : String → Action σ StoreError (Option String)
  /-- Puts a text under a key for a time, in place of any text there. -/
  set : String → String → Nat → Action σ StoreError Unit
  /-- How many keys match a pattern. -/
  count : String → Action σ StoreError Nat

namespace TextCache

variable {σ : Type}

/-- The text that a list is kept as. -/
def encodeList (cs : List Contribution) : String := (Contribution.listToJson cs).render

/-- The list of a text. -/
def decodeList (text : String) : Attempt StoreError (List Contribution) :=
  (Json.decodeText Contribution.listOfJson text).restate fun fault ↦ .serialization (.json fault)

/-- Reads what `get` found as a list. -/
def decodeFound : Option String → Attempt StoreError (Option (List Contribution))
  | none => .ok none
  | some text => (decodeList text).map some

/-- The list under a key. -/
def getList (cache : TextCache σ) (key : String) :
    Action σ StoreError (Option (List Contribution)) :=
  (cache.get key).next fun found ↦ Action.ofAttempt (decodeFound found)

/-- Puts a list under a key for a time. -/
def setList (cache : TextCache σ) (key : String) (cs : List Contribution) (ttl : Nat) :
    Action σ StoreError Unit :=
  cache.set key (encodeList cs) ttl

end TextCache

end ContributionRegistry
