import ContributionRegistry.Failure
import ContributionRegistry.Settings.Basic

/-!
# Settings of the registry service

The registry keeps its records in memory or in a database, and has to know how to reach that. The
branch has settings of the same kind, read in the same way; only the name of the keyspace that is
used where none is set is another one.

All settings are read whether they are needed or not: a replication factor that is no number is a
fault even where records are kept in memory.
-/

namespace ContributionRegistry.Settings

/-! ### Where records are kept -/

/-- Where records are kept. -/
inductive StoreBackend where
  | memory
  | scylla
  deriving DecidableEq, Repr

instance : Inhabited StoreBackend := ⟨.scylla⟩

/-- Reads the name of a store backend. -/
def parseStoreBackend (text : String) : Except String StoreBackend :=
  match lowered text with
  | "memory" => .ok .memory
  | "scylla" => .ok .scylla
  | other => .error s!"unknown backend '{other}', expected memory or scylla"

/-- How to reach the database. -/
structure DatabaseSettings where
  /-- The hosts, with their ports. -/
  hosts : List String := ["localhost:9042"]
  /-- The name of the keyspace. -/
  keyspace : String := "payroll"
  /-- Who asks, if that is to be shown. -/
  username : Option String := none
  /-- What goes with the name. -/
  password : Option String := none
  /-- How many copies a new keyspace keeps. -/
  replicationFactor : Nat := 1
  deriving DecidableEq, Inhabited, Repr

/-- Reads how to reach the database; the keyspace has a name of its own in each service. -/
def readDatabase (vars : Variables) (keyspace : String) : Reading DatabaseSettings := do
  let replicationFactor ←
    setting vars "SCYLLA_REPLICATION_FACTOR" "1" (parseNumber largestWord)
  return {
    hosts := listSetting vars "SCYLLA_HOSTS" "127.0.0.1:9042"
    keyspace := textSetting vars "SCYLLA_KEYSPACE" keyspace
    username := vars "SCYLLA_USERNAME"
    password := vars "SCYLLA_PASSWORD"
    replicationFactor }

/-! ### The service -/

/-- The settings of the service that keeps the registry. -/
structure RegistrySettings where
  /-- Where to listen. -/
  address : Web.SocketAddress
  /-- Where records are kept. -/
  storeBackend : StoreBackend
  /-- How to reach the database. -/
  database : DatabaseSettings
  /-- How much is logged. -/
  logLevel : String
  /-- The origins that pages may come from; a star stands for all. -/
  origins : List String
  deriving DecidableEq, Repr

/-- Reads the settings: address, backend and database, in this order. -/
def RegistrySettings.read (vars : Variables) : Reading RegistrySettings := do
  let address ← setting vars "SERVER_ADDR" "0.0.0.0:3000" parseAddress
  let storeBackend ← setting vars "STORE_BACKEND" "scylla" parseStoreBackend
  let database ← readDatabase vars "payroll"
  return {
    address, storeBackend, database
    logLevel := textSetting vars "LOG_LEVEL" "info"
    origins := listSetting vars "CORS_ORIGINS" "*" }

/-- Settings that were read have the origins that are set. -/
theorem RegistrySettings.origins_of_read {vars : Variables} {settings : RegistrySettings}
    (h : RegistrySettings.read vars = .ok settings) :
    settings.origins = listSetting vars "CORS_ORIGINS" "*" := by
  obtain ⟨address, -, h⟩ := bind_eq_ok h
  obtain ⟨storeBackend, -, h⟩ := bind_eq_ok h
  obtain ⟨database, -, h⟩ := bind_eq_ok h
  cases h
  rfl

end ContributionRegistry.Settings
