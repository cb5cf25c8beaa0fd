import ContributionRegistry.Proofs.Text.Numerals
import ContributionRegistry.Proofs.Web.SocketAddresses
import ContributionRegistry.Settings.Branch
import ContributionRegistry.Settings.Registry

/-!
# Settings that cannot be used

Of the settings of a service some are numbers, addresses and names of backends, which not every text
is. These are required of them in turn (`branchRequirements`, `registryRequirements`), and reading
fails just if one is not met. The fault is about the first one that is not (`Reports`): a setting
that is unset meets whatever is required, and none that is read later can hide an earlier one.

A fault quotes the setting as it is set, with one exception. A time to live of zero is a number, so
reading it succeeds, and the fault shows the number that has been read and not its text. A zero with
further digits or with a plus in front is therefore not quoted (`faults_point_at_culprits`); the
other service has no such setting (`registry_faults_point_at_culprits`).
-/

namespace ContributionRegistry.Settings

/-! ### Requirements -/

/-- What a setting has to be. -/
structure Requirement where
  /-- The setting that is required of. -/
  name : String
  /-- Which texts meet it. -/
  Accepts : String → Prop

namespace Requirement

/-- An unsigned number within bounds. -/
def number (name : String) (least largest : Nat) : Requirement :=
  ⟨name, fun text ↦ ∃ n, Text.Denotes text n ∧ least ≤ n ∧ n ≤ largest⟩

/-- One of some names, whatever the case of its letters. -/
def oneOf (name : String) (names : List String) : Requirement :=
  ⟨name, fun text ↦ lowered text ∈ names⟩

/-- An address to listen on. -/
def address (name : String) : Requirement :=
  ⟨name, fun text ↦ Web.IsSocketAddress text.toList⟩

/-- The setting is set to a text that is not accepted. -/
def Unmet (r : Requirement) (vars : Variables) : Prop :=
  ∃ text, vars r.name = some text ∧ ¬r.Accepts text

end Requirement

/-- A requirement is not met, and all before it are. -/
def FirstUnmet (vars : Variables) (requirements : List Requirement) (r : Requirement) : Prop :=
  r.Unmet vars ∧ ∃ before after, requirements = before ++ r :: after ∧
    ∀ earlier ∈ before, ¬earlier.Unmet vars

/-- What the service that answers from a replica and a cache requires. -/
def branchRequirements : List Requirement :=
  [.number "CACHE_TTL_SECS" 1 largestLong, .address "SERVER_ADDR",
    .number "ORACLE_TIMEOUT_MS" 0 largestLong, .oneOf "STORE_BACKEND" ["memory", "scylla"],
    .number "SCYLLA_REPLICATION_FACTOR" 0 largestWord, .oneOf "CACHE_BACKEND" ["memory", "redis"],
    .number "REDIS_RETRIES" 0 largestLong, .number "REDIS_RESPONSE_TIMEOUT_MS" 0 largestLong]

/-- What the service that keeps the registry requires. -/
def registryRequirements : List Requirement :=
  [.address "SERVER_ADDR", .oneOf "STORE_BACKEND" ["memory", "scylla"],
    .number "SCYLLA_REPLICATION_FACTOR" 0 largestWord]

/-- The settings that are taken as they are. -/
def freeSettings : List String :=
  ["ORACLE_SERVICE_URL", "SCYLLA_HOSTS", "SCYLLA_KEYSPACE", "SCYLLA_USERNAME", "SCYLLA_PASSWORD",
    "REDIS_URL", "LOG_LEVEL", "CORS_ORIGINS"]

/-! ### What is accepted -/

section

variable {text : String}

/-- A number is read from the texts that denote it. -/
theorem parseNumber_eq_ok_iff {largest n : Nat} :
    parseNumber largest text = .ok n ↔ Text.Denotes text n ∧ n ≤ largest := by
  rw [← Text.readNumber_eq_ok_iff, parseNumber]
  cases Text.readNumber largest text with
  | ok m => exact ⟨fun h ↦ congrArg _ (Except.ok.inj h), fun h ↦ congrArg _ (Except.ok.inj h)⟩
  | error fault => exact iff_of_false nofun nofun

theorem exists_parseNumber_iff {name : String} {largest : Nat} :
    (∃ n, parseNumber largest text = .ok n) ↔ (Requirement.number name 0 largest).Accepts text :=
  exists_congr fun n ↦ by rw [parseNumber_eq_ok_iff, and_iff_right (Nat.zero_le n)]

theorem exists_parseAddress_iff {name : String} :
    (∃ address, parseAddress text = .ok address) ↔ (Requirement.address name).Accepts text := by
  refine Iff.trans ?_ (Web.SocketAddress.exists_parse?_iff text)
  rw [parseAddress]
  cases Web.SocketAddress.parse? text with
  | some address => exact iff_of_true ⟨_, rfl⟩ ⟨_, rfl⟩
  | none => exact iff_of_false nofun nofun

theorem Requirement.accepts_oneOf {name first second : String} :
    (oneOf name [first, second]).Accepts text ↔ lowered text = first ∨ lowered text = second :=
  List.mem_cons.trans (or_congr Iff.rfl List.mem_singleton)

theorem exists_parseStoreBackend_iff {name : String} :
    (∃ backend, parseStoreBackend text = .ok backend) ↔
      (Requirement.oneOf name ["memory", "scylla"]).Accepts text := by
  rw [Requirement.accepts_oneOf]
  unfold parseStoreBackend
  split
  · next h => exact iff_of_true ⟨_, rfl⟩ (.inl h)
  · next h => exact iff_of_true ⟨_, rfl⟩ (.inr h)
  · next hmemory hscylla =>
    exact iff_of_false nofun fun h ↦ h.elim hmemory hscylla

theorem exists_parseCacheBackend_iff {name : String} :
    (∃ backend, parseCacheBackend text = .ok backend) ↔
      (Requirement.oneOf name ["memory", "redis"]).Accepts text := by
  rw [Requirement.accepts_oneOf]
  unfold parseCacheBackend
  split
  · next h => exact iff_of_true ⟨_, rfl⟩ (.inl h)
  · next h => exact iff_of_true ⟨_, rfl⟩ (.inr h)
  · next hmemory hredis =>
    exact iff_of_false nofun fun h ↦ h.elim hmemory hredis

end

section

variable {α : Type} {vars : Variables} {name fallback : String}
  {parse : String → Except String α}

/-- A setting is read from its text, or from the text for none. -/
theorem setting_eq_ok_iff {a : α} :
    setting vars name fallback parse = .ok a ↔ parse ((vars name).getD fallback) = .ok a := by
  unfold setting
  cases hread : parse ((vars name).getD fallback) with
  | ok b =>
    simp only [hread]
    exact ⟨fun h ↦ congrArg _ (Except.ok.inj h), fun h ↦ congrArg _ (Except.ok.inj h)⟩
  | error reason =>
    simp only [hread]
    exact iff_of_false nofun nofun

/-- The fault of a setting has its name and the text that it reads as. -/
theorem fault_of_setting {f : SettingsFault} (h : setting vars name fallback parse = .error f) :
    f.name = name ∧ f.value = (vars name).getD fallback ∧ ¬∃ a, parse f.value = .ok a := by
  unfold setting at h
  cases hread : parse ((vars name).getD fallback) with
  | ok a =>
    simp only [hread] at h
    cases h
  | error reason =>
    simp only [hread] at h
    cases h
    refine ⟨rfl, rfl, fun ⟨a, ha⟩ ↦ ?_⟩
    rw [hread] at ha
    cases ha

end

/-! ### Readings that report what is not met -/

/-- A reading succeeds only if all requirements are met. Otherwise its fault is about the first one
that is not, and quotes the setting, if faults do at all. -/
def Reports {α : Type} (vars : Variables) (quoting : Prop) (requirements : List Requirement) :
    Reading α → Prop
  | .ok _ => ∀ r ∈ requirements, ¬r.Unmet vars
  | .error f => ∃ r, FirstUnmet vars requirements r ∧ f.name = r.name ∧
      (quoting → vars r.name = some f.value)

section

variable {α β : Type} {vars : Variables} {quoting : Prop} {r : Requirement}
  {requirements : List Requirement}

theorem FirstUnmet.mem (h : FirstUnmet vars requirements r) : r ∈ requirements := by
  obtain ⟨-, before, after, rfl, -⟩ := h
  exact List.mem_append_right before List.mem_cons_self

theorem firstUnmet_head (h : r.Unmet vars) : FirstUnmet vars (r :: requirements) r :=
  ⟨h, [], requirements, rfl, List.forall_mem_nil _⟩

theorem FirstUnmet.cons {earlier : Requirement} (hmet : ¬earlier.Unmet vars)
    (h : FirstUnmet vars requirements r) : FirstUnmet vars (earlier :: requirements) r := by
  obtain ⟨hunmet, before, after, rfl, hbefore⟩ := h
  exact ⟨hunmet, earlier :: before, after, rfl, List.forall_mem_cons.2 ⟨hmet, hbefore⟩⟩

namespace Reports

theorem pure (a : α) : Reports vars quoting [] (Pure.pure a : Reading α) :=
  List.forall_mem_nil _

/-- What is read first is reported first. -/
theorem bind {reading : Reading α} {rest : α → Reading β}
    (h : Reports vars quoting [r] reading)
    (hrest : ∀ a, Reports vars quoting requirements (rest a)) :
    Reports vars quoting (r :: requirements) (reading >>= rest) := by
  cases reading with
  | error f =>
    obtain ⟨r', hfirst, hname, hvalue⟩ := h
    cases List.mem_singleton.1 hfirst.mem
    exact ⟨r, firstUnmet_head hfirst.1, hname, hvalue⟩
  | ok a =>
    have hmet : ¬r.Unmet vars := h r List.mem_cons_self
    have hlater := hrest a
    show Reports vars quoting (r :: requirements) (rest a)
    cases hread : rest a with
    | ok b =>
      rw [hread] at hlater
      exact List.forall_mem_cons.2 ⟨hmet, hlater⟩
    | error f =>
      rw [hread] at hlater
      obtain ⟨r', hfirst, hname, hvalue⟩ := hlater
      exact ⟨r', hfirst.cons hmet, hname, hvalue⟩

/-- **Reading fails just if a requirement is not met.** -/
theorem fails_iff {reading : Reading α} (h : Reports vars quoting requirements reading) :
    (∃ f, reading = .error f) ↔ ∃ r ∈ requirements, r.Unmet vars := by
  cases reading with
  | ok a => exact iff_of_false nofun fun ⟨r, hr, hunmet⟩ ↦ h r hr hunmet
  | error f =>
    obtain ⟨r, hfirst, -, -⟩ := h
    exact iff_of_true ⟨f, rfl⟩ ⟨r, hfirst.mem, hfirst.1⟩

end Reports

/-- A setting that is unset is no trouble, since the text that stands for it is accepted. -/
theorem reports_setting {parse : String → Except String α} {fallback : String}
    (hparse : ∀ {text}, (∃ a, parse text = .ok a) ↔ r.Accepts text)
    (hfallback : ∃ a, parse fallback = .ok a) :
    Reports vars quoting [r] (setting vars r.name fallback parse) := by
  cases hread : setting vars r.name fallback parse with
  | ok a =>
    refine List.forall_mem_singleton.2 fun ⟨text, hset, hrefused⟩ ↦ hrefused ?_
    rw [setting_eq_ok_iff, hset] at hread
    exact hparse.1 ⟨a, hread⟩
  | error f =>
    obtain ⟨hname, hvalue, hfails⟩ := fault_of_setting hread
    cases hset : vars r.name with
    | none =>
      rw [hvalue, hset] at hfails
      exact absurd hfallback hfails
    | some text =>
      rw [hset, Option.getD_some] at hvalue
      have hrefused : ¬r.Accepts text := hvalue ▸ mt hparse.2 hfails
      exact ⟨r, firstUnmet_head ⟨text, hset, hrefused⟩, hname, fun _ ↦ hvalue ▸ hset⟩

end

/-! ### The services -/

section

variable {vars : Variables} {quoting : Prop}

/-- Reading the database settings reports their culprit. -/
theorem reports_readDatabase (vars : Variables) (keyspace : String) : Reports vars quoting
    [.number "SCYLLA_REPLICATION_FACTOR" 0 largestWord] (readDatabase vars keyspace) :=
  .bind (reports_setting exists_parseNumber_iff ⟨1, by decide +kernel⟩) fun _ ↦ .pure _

/-- **Reading the settings of the registry reports the culprit.** -/
theorem reports_registry (vars : Variables) :
    Reports vars quoting registryRequirements (RegistrySettings.read vars) := by
  refine .bind (reports_setting exists_parseAddress_iff ?_) fun address ↦ ?_
  · exact ⟨.v4 ⟨0, 0, 0, 0⟩ 3000, by decide +kernel⟩
  refine .bind (reports_setting exists_parseStoreBackend_iff ?_) fun storeBackend ↦ ?_
  · exact ⟨.scylla, by decide +kernel⟩
  exact .bind (reports_readDatabase vars _) fun database ↦ .pure _

/-- Settings of which only the time to live is set. -/
def onlyTtl (text : String) : Variables :=
  fun name ↦ if name = "CACHE_TTL_SECS" then some text else none

/-- The time to live is set to zero, but not written as just that digit. -/
def OddZero (vars : Variables) : Prop :=
  ∃ text, vars "CACHE_TTL_SECS" = some text ∧ Text.Denotes text 0 ∧ text ≠ "0"

/-- A time to live is never zero unless it is set. -/
theorem exists_text_of_zero
    (h : setting vars "CACHE_TTL_SECS" "60" (parseNumber largestLong) = .ok 0) :
    ∃ text, vars "CACHE_TTL_SECS" = some text ∧ Text.Denotes text 0 := by
  obtain ⟨hzero, -⟩ := parseNumber_eq_ok_iff.1 (setting_eq_ok_iff.1 h)
  cases hset : vars "CACHE_TTL_SECS" with
  | none =>
    have hsixty : Text.Denotes "60" 60 := ⟨_, Text.isNumeral_digitsOf 60, .inl rfl⟩
    rw [hset] at hzero
    exact absurd (hzero.unique hsixty) (by decide)
  | some text =>
    rw [hset, Option.getD_some] at hzero
    exact ⟨text, rfl, hzero⟩

/-- Reading a time to live reports it, and quotes it unless it is an odd zero. -/
theorem reports_readCacheTtl (vars : Variables) :
    Reports vars (¬OddZero vars) [.number "CACHE_TTL_SECS" 1 largestLong] (readCacheTtl vars) := by
  have hnumber : Reports vars (¬OddZero vars) [.number "CACHE_TTL_SECS" 0 largestLong]
      (setting vars "CACHE_TTL_SECS" "60" (parseNumber largestLong)) :=
    reports_setting exists_parseNumber_iff ⟨60, by decide +kernel⟩
  rw [readCacheTtl]
  -- reading can fail twice: for a text that is no number, and for the number zero
  cases hread : setting vars "CACHE_TTL_SECS" "60" (parseNumber largestLong) with
  | error f =>
    rw [hread] at hnumber
    obtain ⟨r, hfirst, hname, hvalue⟩ := hnumber
    cases List.mem_singleton.1 hfirst.mem
    obtain ⟨⟨text, hset, hrefused⟩, -⟩ := hfirst
    refine ⟨_, firstUnmet_head ⟨text, hset, fun ⟨n, hn, _, hle⟩ ↦ ?_⟩, hname, hvalue⟩
    exact hrefused ⟨n, hn, Nat.zero_le n, hle⟩
  | ok seconds =>
    show Reports vars _ _ (if seconds = 0 then .error _ else .ok _)
    split
    · next hseconds =>
      subst hseconds
      obtain ⟨text, hset, hzero⟩ := exists_text_of_zero hread
      refine ⟨_, firstUnmet_head ⟨text, hset, fun ⟨n, hn, hpos, _⟩ ↦ ?_⟩, rfl, fun hplain ↦ ?_⟩
      · rw [hn.unique hzero] at hpos
        exact absurd hpos (by decide)
      · -- the fault shows the number, which is the text if the zero is written plainly
        have htext : text = "0" :=
          Decidable.byContradiction fun hodd ↦ hplain ⟨text, hset, hzero, hodd⟩
        rwa [htext] at hset
    · next hseconds =>
      refine List.forall_mem_singleton.2 fun ⟨text, hset, hrefused⟩ ↦ hrefused ?_
      change vars "CACHE_TTL_SECS" = some text at hset
      rw [setting_eq_ok_iff, hset, Option.getD_some, parseNumber_eq_ok_iff] at hread
      exact ⟨seconds, hread.1, Nat.pos_of_ne_zero hseconds, hread.2⟩

/-- **Reading the settings of the branch reports the culprit.** -/
theorem reports_branch (vars : Variables) :
    Reports vars (¬OddZero vars) branchRequirements (BranchSettings.read vars) := by
  refine .bind (reports_readCacheTtl vars) fun ttl ↦ ?_
  refine .bind (reports_setting exists_parseAddress_iff ?_) fun address ↦ ?_
  · exact ⟨.v4 ⟨0, 0, 0, 0⟩ 3001, by decide +kernel⟩
  refine .bind (reports_setting exists_parseNumber_iff ?_) fun timeout ↦ ?_
  · exact ⟨5000, by decide +kernel⟩
  refine .bind (reports_setting exists_parseStoreBackend_iff ?_) fun storeBackend ↦ ?_
  · exact ⟨.scylla, by decide +kernel⟩
  refine .bind (reports_readDatabase vars _) fun database ↦ ?_
  refine .bind (reports_setting exists_parseCacheBackend_iff ?_) fun cacheBackend ↦ ?_
  · exact ⟨.redis, by decide +kernel⟩
  refine .bind (reports_setting exists_parseNumber_iff ?_) fun retries ↦ ?_
  · exact ⟨3, by decide +kernel⟩
  refine .bind (reports_setting exists_parseNumber_iff ?_) fun responseTimeout ↦ .pure _
  exact ⟨5000, by decide +kernel⟩

/-- A zero is read however it is written, and the fault shows what has been read. -/
theorem read_of_oddZero (h : OddZero vars) : BranchSettings.read vars =
    .error ⟨"CACHE_TTL_SECS", "0", "must be at least 1 second"⟩ := by
  obtain ⟨text, hset, hzero, -⟩ := h
  have hread : setting vars "CACHE_TTL_SECS" "60" (parseNumber largestLong) = .ok 0 := by
    rw [setting_eq_ok_iff, hset]
    exact parseNumber_eq_ok_iff.2 ⟨hzero, Nat.zero_le _⟩
  rw [BranchSettings.read, readCacheTtl, hread]
  rfl

/-- Settings with other names have no part in it. -/
theorem read_congr {vars' : Variables}
    (h : ∀ name ∈ branchRequirements.map Requirement.name ++ freeSettings, vars name = vars' name) :
    BranchSettings.read vars = BranchSettings.read vars' := by
  simp only [branchRequirements, freeSettings, Requirement.number, Requirement.address,
    Requirement.oneOf, List.map_cons, List.map_nil, List.cons_append, List.nil_append,
    List.forall_mem_cons] at h
  obtain ⟨httl, haddress, htimeout, hstore, hfactor, hcache, hretries, hresponse, hmaster, hhosts,
    hkeyspace, husername, hpassword, hserver, hlevel, horigins, -⟩ := h
  simp only [BranchSettings.read, readCacheTtl, readDatabase, setting, listSetting, textSetting,
    httl, haddress, htimeout, hstore, hfactor, hcache, hretries, hresponse, hmaster, hhosts,
    hkeyspace, husername, hpassword, hserver, hlevel, horigins]

end

/-- **Faults point at the setting that is to blame.** Reading fails just if a requirement is not
met, and the fault is about the first one that is not. It quotes the text of the setting just if
that is no zero written otherwise, which it shows as `0`. What is read depends on no further
settings than the documented ones. -/
theorem faults_point_at_culprits (vars : Variables) :
    ((∃ f, BranchSettings.read vars = .error f) ↔ ∃ r ∈ branchRequirements, r.Unmet vars) ∧
    (∀ f, BranchSettings.read vars = .error f →
      (∃ r, FirstUnmet vars branchRequirements r ∧ f.name = r.name) ∧
      (vars f.name = some f.value ↔ ¬OddZero vars) ∧ (OddZero vars → f.value = "0")) ∧
    ∀ vars' : Variables, (∀ name ∈ branchRequirements.map Requirement.name ++ freeSettings,
      vars name = vars' name) → BranchSettings.read vars = BranchSettings.read vars' := by
  have hreports := reports_branch vars
  refine ⟨hreports.fails_iff, fun f hread ↦ ?_, fun vars' ↦ read_congr⟩
  rw [hread] at hreports
  obtain ⟨r, hfirst, hname, hquoted⟩ := hreports
  refine ⟨⟨r, hfirst, hname⟩, ⟨fun hvalue hodd ↦ ?_, hname ▸ hquoted⟩, fun hodd ↦ ?_⟩
  · rw [read_of_oddZero hodd] at hread
    cases hread
    obtain ⟨text, hset, -, hne⟩ := hodd
    exact hne (Option.some.inj (hset.symm.trans hvalue))
  · rw [read_of_oddZero hodd] at hread
    cases hread
    rfl

/-- Two settings are wrong: the first one is reported, as it is set, whatever else there is. -/
theorem faults_point_at_culprits_disk :
    let vars : Variables := fun name ↦
      if name = "CACHE_TTL_SECS" then some "+7"
      else if name = "STORE_BACKEND" then some "disk"
      else if name = "REDIS_RETRIES" then some "-1"
      else none
    let more : Variables := fun name ↦ if name = "HOME" then some "/" else vars name
    ∃ f, BranchSettings.read more = .error f ∧ f.name = "STORE_BACKEND" ∧
      more f.name = some f.value ∧
      ∃ r, FirstUnmet vars branchRequirements r ∧ r.name = "STORE_BACKEND" := by
  intro vars more
  have hread : BranchSettings.read vars = .error
      ⟨"STORE_BACKEND", "disk", "unknown backend 'disk', expected memory or scylla"⟩ := by
    decide +kernel
  have hseven : Text.Denotes "+7" 7 := ⟨['7'], ⟨nofun, by decide, by decide⟩, .inr (by decide)⟩
  have hplain : ¬OddZero vars := by
    rintro ⟨text, hset, hzero, -⟩
    cases Option.some.inj hset
    exact absurd (hzero.unique hseven) (by decide)
  obtain ⟨-, hfault, hcongr⟩ := faults_point_at_culprits vars
  obtain ⟨⟨r, hfirst, hname⟩, hquoted, -⟩ := hfault _ hread
  refine ⟨_, (hcongr more ?_).symm.trans hread, rfl, hquoted.2 hplain, r, hfirst, hname.symm⟩
  decide +kernel

/-- **A zero with a further digit is not quoted**, so faults do not always quote. -/
theorem odd_zero_misquoted :
    BranchSettings.read (onlyTtl "00") =
      .error ⟨"CACHE_TTL_SECS", "0", "must be at least 1 second"⟩ ∧
    ¬∀ vars f, BranchSettings.read vars = .error f → vars f.name = some f.value := by
  have hzero : Text.Denotes "00" 0 :=
    ⟨['0', '0'], ⟨nofun, by decide, by decide⟩, .inl (by decide)⟩
  have hodd : OddZero (onlyTtl "00") := ⟨"00", rfl, hzero, by decide⟩
  have hread := read_of_oddZero hodd
  refine ⟨hread, fun h ↦ ?_⟩
  have hquoted : some "00" = some "0" := h (onlyTtl "00") _ hread
  exact absurd hquoted (by decide)

/-- **The registry points at culprits too**, and always quotes them. -/
theorem registry_faults_point_at_culprits (vars : Variables) :
    ((∃ f, RegistrySettings.read vars = .error f) ↔ ∃ r ∈ registryRequirements, r.Unmet vars) ∧
    ∀ f, RegistrySettings.read vars = .error f → vars f.name = some f.value ∧
      ∃ r, FirstUnmet vars registryRequirements r ∧ f.name = r.name := by
  have hreports : Reports vars True registryRequirements (RegistrySettings.read vars) :=
    reports_registry vars
  refine ⟨hreports.fails_iff, fun f hread ↦ ?_⟩
  rw [hread] at hreports
  obtain ⟨r, hfirst, hname, hquoted⟩ := hreports
  exact ⟨hname ▸ hquoted trivial, r, hfirst, hname⟩

end ContributionRegistry.Settings
