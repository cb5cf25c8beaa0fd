import ContributionRegistry.Cache.Basic
import ContributionRegistry.Settings.Basic

/-!
# A cache server

A cache of texts kept by a server that is asked by commands. Keys that match a pattern are counted
page by page: each page comes with a cursor, the next one is asked for with that cursor, and a zero
ends the count.

The server is a function from commands to replies on a state of its own (`CacheServer`), so nothing
is assumed of it here: it may answer a command with a reply of any kind, and replies that do not fit
are failures (`ServerReply.toFound`, `ServerReply.toPage`). A reply is a failure as a whole if there
is one anywhere in it.

Times to live go to the server as seconds, whole ones and at least one (`CacheServer.secondsOf`).

A server that never sends a zero would be asked for ever, so the number of pages has a bound; a
count that reaches it is abandoned.
-/

namespace ContributionRegistry.Cache

/-- What a cache server is asked. -/
inductive Command where
  | get (key : String)
  /-- Puts a text under a key for so many seconds. -/
  | setFor (key : String) (seconds : Nat) (text : String)
  /-- A page of the keys that match a pattern. -/
  | scan (cursor : Nat) (pattern : String)
  deriving DecidableEq, Repr

/-- About how many keys a page has. -/
def pageSize : Nat := 100

/-- The words of a command. -/
def Command.words : Command → List String
  | .get key => ["GET", key]
  | .setFor key seconds text => ["SETEX", key, toString seconds, text]
  | .scan cursor pattern =>
    ["SCAN", toString cursor, "MATCH", pattern, "COUNT", toString pageSize]

/-- What a cache server replies. -/
inductive ServerReply where
  | nothing
  | done
  | number (n : Int)
  | text (s : String)
  | list (items : List ServerReply)
  | failure (reason : String)
  deriving Inhabited, Repr

namespace ServerReply

/-- The failure in a reply, wherever it stands. -/
def failure? : ServerReply → Option String
  | .failure reason => some reason
  | .list items => items.attach.findSome? fun ⟨item, _⟩ ↦ item.failure?
  | _ => none

/-- A reply as a text. -/
def toText : ServerReply → Except String String
  | .text s => .ok s
  | .done => .ok "OK"
  | .number n => .ok (toString n)
  | _ => .error "not a text"

/-- A reply as a text that may be missing. -/
def toFound : ServerReply → Except String (Option String)
  | .nothing => .ok none
  | reply => reply.toText.map some

/-- A reply as a cursor. Negative numbers count from the end of the numbers of 64 bits. -/
def toCursor : ServerReply → Except String Nat
  | .number n => .ok (n % 18446744073709551616).toNat
  | .text s => (Text.readNumber Settings.largestLong s).mapError fun _ ↦ "not a cursor"
  | _ => .error "not a cursor"

/-- A reply as the keys of a page. A text alone is a page of one key. -/
def toKeys : ServerReply → Except String (List String)
  | .list items => items.mapM toText
  | .text s => .ok [s]
  | .nothing => .ok []
  | _ => .error "not a page"

/-- A reply as a cursor with a page. -/
def toPage : ServerReply → Except String (Nat × List String)
  | .list [cursor, keys] => do return (← cursor.toCursor, ← keys.toKeys)
  | _ => .error "not a page with a cursor"

end ServerReply

/-- A conversation with a cache server. -/
abbrev CacheServer (σ : Type) : Type := Command → σ → ServerReply × σ

namespace CacheServer

variable {σ : Type}

/-- Gives a command and reads the reply, unless it is a failure. -/
def ask {α : Type} (server : CacheServer σ) (command : Command)
    (read : ServerReply → Except String α) : Action σ StoreError α := fun s ↦
  let (reply, s) := server command s
  match reply.failure? with
  | some reason => (.refuse (.cacheServer reason), s)
  | none => (Attempt.ofExcept ((read reply).mapError .cacheServer), s)

/-- The seconds of a time to live in milliseconds: whole ones, and at least one. -/
def secondsOf (ttl : Nat) : Nat := max 1 (ttl / 1000)

/-- Counts the keys of the pages from a cursor on, at most `pages` of them. -/
def countFrom (server : CacheServer σ) (pattern : String) :
    Nat → Nat → Nat → Action σ StoreError Nat
  | 0, _, _ => Action.abandon
  | pages + 1, cursor, sofar =>
    (server.ask (.scan cursor pattern) ServerReply.toPage).next fun (next, keys) ↦
      if next = 0 then Action.succeed (sofar + keys.length)
      else countFrom server pattern pages next (sofar + keys.length)

/-- The cache that a server keeps; counts take at most `pages` pages. -/
def texts (server : CacheServer σ) (pages : Nat) : TextCache σ where
  get key := server.ask (.get key) ServerReply.toFound
  set key text ttl := server.ask (.setFor key (secondsOf ttl) text) fun _ ↦ .ok ()
  count pattern := server.countFrom pattern pages 0 0

end CacheServer

end ContributionRegistry.Cache
