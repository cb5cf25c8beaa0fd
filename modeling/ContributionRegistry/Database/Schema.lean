import ContributionRegistry.Database.Statement
import ContributionRegistry.Settings.Registry

/-!
# Opening a database

A database is opened by making sure that the keyspace, its tables and their indexes are there, and
then turning to the keyspace (`Session.connect`). The name of a keyspace stands in the statements as
it is, so only letters, digits and underscores are let through, and that is checked before anything
is said to the database.

The statements of `schema` are in the order in which they are carried out: an index needs its table,
and a table its keyspace. Each of them makes what is missing and nothing else, so opening a database
again changes nothing. The first one that fails ends the opening.
-/

namespace ContributionRegistry.Database

open Settings (DatabaseSettings)

/-- Whether a character may stand in the name of a keyspace. -/
def isNameChar (c : Char) : Bool := c.isAlphanum || c == '_'

/-- Whether a text may be the name of a keyspace. -/
def isKeyspace (name : String) : Bool := !name.isEmpty && name.toList.all isNameChar

/-- The failure of a name that cannot be one of a keyspace. -/
def badKeyspace (name : String) : StoreError :=
  .invalidConfig s!"keyspace '{name}' must be alphanumeric"

/-- The statement that makes a keyspace. -/
def createKeyspace (keyspace : String) (replicationFactor : Nat) : String :=
  s!"CREATE KEYSPACE IF NOT EXISTS {keyspace} WITH replication = " ++
    s!"\x7b'class': 'SimpleStrategy', 'replication_factor': {replicationFactor}\x7d"

/-- The statement that makes the table of employees. -/
def createEmployees (keyspace : String) : String :=
  s!"CREATE TABLE IF NOT EXISTS {keyspace}.employees ( rssb_number text PRIMARY KEY, id text, " ++
    "firstname text, lastname text, dob date, created_at timestamp, updated_at timestamp )"

/-- The statement that makes the table of employers. -/
def createEmployers (keyspace : String) : String :=
  s!"CREATE TABLE IF NOT EXISTS {keyspace}.employers ( matricule text PRIMARY KEY, id text, " ++
    "name text, created_at timestamp, updated_at timestamp )"

/-- The statement that makes the table of contributions. -/
def createContributions (keyspace : String) : String :=
  s!"CREATE TABLE IF NOT EXISTS {keyspace}.contributions ( id text PRIMARY KEY, period text, " ++
    "rssb_number text, matricule text, amount text, created_at timestamp, updated_at timestamp )"

/-- The statement that makes the index of contributions by a column. -/
def createIndex (keyspace column : String) : String :=
  s!"CREATE INDEX IF NOT EXISTS contributions_{column}_idx ON {keyspace}.contributions ({column})"

/-- The statements that make what is missing, in order. -/
def schema (keyspace : String) (replicationFactor : Nat) : List Statement :=
  ([createKeyspace keyspace replicationFactor, createEmployees keyspace, createEmployers keyspace,
    createContributions keyspace] ++
    ["rssb_number", "period", "matricule"].map (createIndex keyspace)).map fun cql ↦ { cql }

/-- The length of the longest name that can be turned to. -/
def longestKeyspace : Nat := 48

variable {σ : Type}

/-- Carries out a statement whose answer does not matter unless it is a failure. -/
def Session.perform (session : Session σ) (statement : Statement) : Action σ StoreError Unit :=
  fun s ↦
    let (answer, s) := session.run statement s
    match answer with
    | .failed reason => (.refuse (.database reason), s)
    | .done | .rows .. => (.ok (), s)

/-- Carries out statements in order, until one fails. -/
def Session.performAll (session : Session σ) : List Statement → Action σ StoreError Unit
  | [] => Action.succeed ()
  | statement :: rest => (session.perform statement).next fun _ ↦ session.performAll rest

/-- Turns to a keyspace. -/
def Session.useKeyspace (session : Session σ) (keyspace : String) : Action σ StoreError Unit :=
  if longestKeyspace < keyspace.length then Action.refuse (.database "keyspace name too long")
  else session.perform { cql := s!"USE {keyspace}" }

/-- User and password, if both are set. -/
def credentials? (settings : DatabaseSettings) : Option (String × String) := do
  return (← settings.username, ← settings.password)

/-- User and password as they are shown to the database. -/
def credentialsText (user password : String) : String := s!"\x00{user}\x00{password}"

/-- Shows who is asking. -/
def Session.logIn (session : Session σ) (settings : DatabaseSettings) : Action σ StoreError Unit :=
  fun s ↦
    let (admitted, s) := session.introduce (credentials? settings) s
    (if admitted then .ok () else .refuse (.database "not admitted"), s)

/-- Opens a database. -/
def Session.connect (session : Session σ) (settings : DatabaseSettings) :
    Action σ StoreError Unit :=
  if isKeyspace settings.keyspace then
    (session.logIn settings).next fun _ ↦
      (session.performAll (schema settings.keyspace settings.replicationFactor)).next fun _ ↦
        session.useKeyspace settings.keyspace
  else Action.refuse (badKeyspace settings.keyspace)

end ContributionRegistry.Database
