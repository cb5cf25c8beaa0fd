import ContributionRegistry.Cache.Basic

/-!
# A cache in memory

Texts under keys, each with a deadline. A text is there as long as the clock is before its deadline;
texts past it are dropped when they are looked up, and all of them at every write and every count.

The clock counts milliseconds up to a largest reading. A write whose deadline lies beyond that is
abandoned: what has expired is gone by then, the text is not stored.

The operations are defined on lists of entries with the reading of the clock as an argument
(`Entries.get`, `Entries.set`, `Entries.count`), and the cache itself (`MemoryCache.texts`) puts a
clock beside the entries. Nothing here moves the clock but `MemoryCache.advance`: time passes
between calls, not in them.
-/

namespace ContributionRegistry.Cache

/-- A text under a key, and the reading of the clock at which it expires. -/
structure Entry where
  /-- What the text is looked up by. -/
  key : String
  /-- The text itself. -/
  text : String
  /-- The first reading of the clock at which the text is gone. -/
  deadline : Nat
  deriving DecidableEq, Repr

/-- Whether an entry is still good. -/
def Entry.live (now : Nat) (e : Entry) : Bool := now < e.deadline

/-- The first reading that the clock does not have: 2 ^ 63 seconds. -/
def clockBound : Nat := 9223372036854775808 * 1000

/-- Entries, at most one under a key. -/
abbrev Entries : Type := List Entry

namespace Entries

/-- The entry under a key, expired or not. -/
def entry? (es : Entries) (key : String) : Option Entry := es.find? fun e ↦ e.key == key

/-- The entries without the one under a key. -/
def drop (es : Entries) (key : String) : Entries := es.filter fun e ↦ e.key != key

/-- The entries that are still good. -/
def living (es : Entries) (now : Nat) : Entries := es.filter (Entry.live now)

/-- Looks up a text. An expired entry under the key is dropped. -/
def get (now : Nat) (key : String) (es : Entries) : Option String × Entries :=
  match es.entry? key with
  | none => (none, es)
  | some e => if e.live now then (some e.text, es) else (none, es.drop key)

/-- Stores a text for a time. There is no outcome if the clock has no such deadline. -/
def set (now : Nat) (key text : String) (ttl : Nat) (es : Entries) : Option Unit × Entries :=
  if now + ttl < clockBound then
    (some (), (es.living now).drop key ++ [⟨key, text, now + ttl⟩])
  else (none, es.living now)

/-- Whether a key matches a pattern: a star at the end stands for any rest, all else for itself. -/
def matchesPattern (pattern key : List Char) : Bool :=
  match pattern.reverse with
  | '*' :: start => start.reverse.isPrefixOf key
  | _ => pattern == key

/-- How many good keys match a pattern. -/
def count (now : Nat) (pattern : String) (es : Entries) : Nat × Entries :=
  let living := es.living now
  ((living.filter fun e ↦ matchesPattern pattern.toList e.key.toList).length, living)

end Entries

/-- A cache in memory with its clock. -/
structure MemoryCache where
  /-- The reading of the clock, in milliseconds. -/
  now : Nat
  /-- The entries, expired ones among them until they are dropped. -/
  entries : Entries
  deriving Repr

namespace MemoryCache

/-- Lets time pass. -/
def advance (span : Nat) (c : MemoryCache) : MemoryCache := { c with now := c.now + span }

/-- The cache on this state. -/
def texts : TextCache MemoryCache where
  get key c :=
    let (found, entries) := c.entries.get c.now key
    (.ok found, { c with entries })
  set key text ttl c :=
    match c.entries.set c.now key text ttl with
    | (some (), entries) => (.ok (), { c with entries })
    | (none, entries) => (.error .abandoned, { c with entries })
  count pattern c :=
    let (n, entries) := c.entries.count c.now pattern
    (.ok n, { c with entries })

end MemoryCache

end ContributionRegistry.Cache
