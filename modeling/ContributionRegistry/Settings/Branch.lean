import ContributionRegistry.Settings.Registry

/-!
# Settings of the branch service

The branch keeps a replica as the registry keeps its records, asks master data for what the replica
lacks, and caches contribution lists, in memory or on a server, for a time that is a setting too.

The time to live is read first (`readCacheTtl`). Zero can be read but not be lived by, so it is
refused in a second step, and the fault is made of the number that was read; all other faults have
the text of the setting.
-/

namespace ContributionRegistry.Settings

/-! ### Cache and master data -/

/-- Where texts are cached. -/
inductive CacheBackend where
  | memory
  | redis
  deriving DecidableEq, Repr

instance : Inhabited CacheBackend := ⟨.redis⟩

/-- Reads the name of a cache backend. -/
def parseCacheBackend (text : String) : Except String CacheBackend :=
  match lowered text with
  | "memory" => .ok .memory
  | "redis" => .ok .redis
  | other => .error s!"unknown backend '{other}', expected memory or redis"

/-- How to reach the cache server. Times are in milliseconds. -/
structure CacheServerSettings where
  /-- Where the server is. -/
  url : String := "redis://127.0.0.1:6379"
  /-- How often a connection that is lost is made again. -/
  retries : Nat := 3
  /-- How long a reply is waited for. -/
  responseTimeout : Nat := 5000
  /-- How long a connection is waited for. -/
  connectionTimeout : Nat := 5000
  deriving DecidableEq, Repr

/-- How to reach master data. The time is in milliseconds. -/
structure MasterDataSettings where
  /-- The text of the base URL, which is read later. -/
  baseUrl : String := "http://127.0.0.1:3000"
  /-- How long an answer is waited for. -/
  timeout : Nat := 5000
  deriving DecidableEq, Repr

/-! ### The service -/

/-- The settings of the service that answers from a replica and a cache. -/
structure BranchSettings where
  /-- Where to listen. -/
  address : Web.SocketAddress
  /-- How to reach master data. -/
  masterData : MasterDataSettings
  /-- Where the replica is kept. -/
  storeBackend : StoreBackend
  /-- How to reach the database. -/
  database : DatabaseSettings
  /-- Where texts are cached. -/
  cacheBackend : CacheBackend
  /-- How to reach the cache server. -/
  cacheServer : CacheServerSettings
  /-- How long contribution lists are kept, in milliseconds. -/
  cacheTtl : Nat
  /-- How much is logged. -/
  logLevel : String
  /-- The origins that pages may come from; a star stands for all. -/
  origins : List String
  deriving DecidableEq, Repr

/-- Reads the time to live, in seconds. Zero is a number, but none to live by; however it is
written, the fault shows it as `0`. -/
def readCacheTtl (vars : Variables) : Reading Nat := do
  let seconds ← setting vars "CACHE_TTL_SECS" "60" (parseNumber largestLong)
  if seconds = 0 then .error ⟨"CACHE_TTL_SECS", toString seconds, "must be at least 1 second"⟩
  else return 1000 * seconds

/-- Reads the settings: time to live, address, time limit for master data, store backend, database,
cache backend, and cache server, in this order. -/
def BranchSettings.read (vars : Variables) : Reading BranchSettings := do
  let cacheTtl ← readCacheTtl vars
  let address ← setting vars "SERVER_ADDR" "0.0.0.0:3001" parseAddress
  let timeout ← setting vars "ORACLE_TIMEOUT_MS" "5000" (parseNumber largestLong)
  let storeBackend ← setting vars "STORE_BACKEND" "scylla" parseStoreBackend
  let database ← readDatabase vars "imisanzu"
  let cacheBackend ← setting vars "CACHE_BACKEND" "redis" parseCacheBackend
  let retries ← setting vars "REDIS_RETRIES" "3" (parseNumber largestLong)
  let responseTimeout ← setting vars "REDIS_RESPONSE_TIMEOUT_MS" "5000" (parseNumber largestLong)
  return {
    address, storeBackend, database, cacheBackend, cacheTtl
    masterData := ⟨textSetting vars "ORACLE_SERVICE_URL" "http://127.0.0.1:3000", timeout⟩
    cacheServer := {
      url := textSetting vars "REDIS_URL" "redis://127.0.0.1:6379"
      retries, responseTimeout }
    logLevel := textSetting vars "LOG_LEVEL" "info"
    origins := listSetting vars "CORS_ORIGINS" "*" }

/-- Settings that were read have the time to live and the origins that are set. -/
theorem BranchSettings.of_read {vars : Variables} {settings : BranchSettings}
    (h : BranchSettings.read vars = .ok settings) :
    readCacheTtl vars = .ok settings.cacheTtl ∧
      settings.origins = listSetting vars "CORS_ORIGINS" "*" := by
  obtain ⟨ttl, httl, h⟩ := bind_eq_ok h
  obtain ⟨address, -, h⟩ := bind_eq_ok h
  obtain ⟨timeout, -, h⟩ := bind_eq_ok h
  obtain ⟨storeBackend, -, h⟩ := bind_eq_ok h
  obtain ⟨database, -, h⟩ := bind_eq_ok h
  obtain ⟨cacheBackend, -, h⟩ := bind_eq_ok h
  obtain ⟨retries, -, h⟩ := bind_eq_ok h
  obtain ⟨responseTimeout, -, h⟩ := bind_eq_ok h
  cases h
  exact ⟨httl, rfl⟩

end ContributionRegistry.Settings
