import ContributionRegistry.Proofs.Cache.Backends
import ContributionRegistry.Proofs.Cache.Degradation
import ContributionRegistry.Proofs.Settings.Culprits

/-!
# Times to live and the end of the clock

Settings admit as a time to live any number of seconds from 1 up to the largest of 64 bits, and
nothing compares it with the clock, which has half as many seconds. A list that is written with a
deadline beyond the end of the clock is not stored, and the lookup that has fetched it is abandoned
(`accepted_ttl_kept_iff`); with the longest time that settings admit, this befalls every lookup that
asks master data (`longest_ttl_abandons`).

Storing in memory comes down to one comparison (`MemoryCache.set_of_lt`, `MemoryCache.set_of_le`),
and a lookup that misses to storing (`lookup_of_told_iff`). A server has no part in this: it is told
seconds, and whether it keeps them is for it to say.

`accepted_ttl_kept_iff_half` is a time between the two: the clock goes as far in its first second
and no longer.
-/

namespace ContributionRegistry

/-! ### The times that settings admit -/

namespace Settings

variable {vars : Variables} {settings : BranchSettings}

/-- The longest time that can be set is the largest number of seconds. -/
theorem le_of_readCacheTtl {ttl : Nat} (h : readCacheTtl vars = .ok ttl) :
    ttl ≤ 1000 * largestLong := by
  obtain ⟨seconds, hread, h⟩ := bind_eq_ok h
  split at h
  · cases h
  · cases h
    exact Nat.mul_le_mul_left 1000 (parseNumber_eq_ok_iff.1 (setting_eq_ok_iff.1 hread)).2

/-- Times to live are from one second to as many as 64 bits have. -/
theorem seconds_of_read (h : BranchSettings.read vars = .ok settings) :
    ∃ seconds, 1 ≤ seconds ∧ seconds ≤ largestLong ∧ settings.cacheTtl = 1000 * seconds := by
  obtain ⟨seconds, hpos, hwhole⟩ := whole_of_read h
  have hle := le_of_readCacheTtl (BranchSettings.of_read h).1
  exact ⟨seconds, hpos, by omega, hwhole⟩

/-- A time that is read comes with all the other settings. -/
theorem exists_read_of_cacheTtl (vars : Variables) (ttl : Nat)
    (h : (BranchSettings.read vars).map BranchSettings.cacheTtl = .ok ttl) :
    ∃ settings, BranchSettings.read vars = .ok settings ∧ settings.cacheTtl = ttl := by
  rcases hread : BranchSettings.read vars with fault | settings <;> rw [hread] at h
  · cases h
  · exact ⟨settings, rfl, Except.ok.inj h⟩

end Settings

namespace Cache

open Deployment (Branch)

/-! ### Storing in memory -/

namespace MemoryCache

variable {key text : String} {ttl : Nat} {c : MemoryCache}

/-- A text is stored if the clock goes as far as its deadline. -/
theorem set_of_lt (h : c.now + ttl < clockBound) : texts.set key text ttl c = (.ok (), { c with
    entries := (c.entries.living c.now).drop key ++ [⟨key, text, c.now + ttl⟩] }) := by
  simp only [texts, Entries.set, if_pos h]

theorem set_of_le (h : clockBound ≤ c.now + ttl) : texts.set key text ttl c =
    (.error .abandoned, { c with entries := c.entries.living c.now }) := by
  simp only [texts, Entries.set, if_neg (Nat.not_lt.2 h)]

/-- Whatever is stored for a time at a reading of the clock is found there at once. -/
def Keeps (ttl now : Nat) : Prop :=
  ∀ entries key text, ∃ c, texts.set key text ttl ⟨now, entries⟩ = (.ok (), c) ∧
    texts.get key c = (.ok (some text), c)

/-- **A text is kept for a time just if the clock goes as far.** -/
theorem keeps_iff {now : Nat} (hpos : 0 < ttl) : Keeps ttl now ↔ now + ttl < clockBound := by
  constructor
  · intro hkeeps
    obtain ⟨c, hset, -⟩ := hkeeps [] "" ""
    by_contra hbound
    rw [set_of_le (Nat.le_of_not_lt hbound)] at hset
    cases hset
  · intro hbound entries key text
    have hstored : Entries.set now key text ttl entries = (some (), _) := if_pos hbound
    have hentry := Entries.entry?_of_set hstored
    have hlive : Entry.live now ⟨key, text, now + ttl⟩ = true :=
      decide_eq_true (Nat.lt_add_of_pos_right hpos)
    refine ⟨_, set_of_lt hbound, ?_⟩
    simp only [texts, Entries.get, hentry, hlive, if_true]

end MemoryCache

/-! ### Looking lists up -/

section

variable {ttl : Nat} {key : String} {b : Branch Supply} {list : List Contribution}

/-- A list whose time ends after the clock does is not written. -/
theorem setList_of_le (hset : b.cache.faults.set = false) (hbound : clockBound ≤ clock b + ttl) :
    Branch.texts.setList key list ttl b =
      (.error .abandoned, withResidents b ((residents b).living (clock b))) := by
  have hentries : (residents b).set (clock b) key (TextCache.encodeList list) ttl =
      (none, (residents b).living (clock b)) := if_neg (Nat.not_lt.2 hbound)
  rw [setList_of_writable hset, hentries]

/-- **A list of master data is the outcome just if its time ends before the clock does**, and
otherwise the lookup is abandoned. -/
theorem lookup_of_told_iff (hworking : Working b.cache.faults)
    (hmissed : Missed (Branch.texts.getList (listKey key) b).1)
    (hanswer : answer b key = .ok list) :
    ((lookup ttl key b).1 = .ok list ↔ clock b + ttl < clockBound) ∧
      ((lookup ttl key b).1 = .error .abandoned ↔ clockBound ≤ clock b + ttl) := by
  have hread := getList_of_readable hworking.1 (listKey key)
  rw [hread] at hmissed
  rcases Nat.lt_or_ge (clock b + ttl) clockBound with hbound | hbound
  · obtain ⟨es, hlookup, -⟩ := lookup_of_written hread hmissed hanswer hworking.2 hbound
    rw [hlookup]
    exact ⟨iff_of_true rfl hbound, iff_of_false nofun (Nat.not_le.2 hbound)⟩
  · let b₁ := questioned (withResidents b ((residents b).get (clock b) (listKey key)).2)
    have hwrite : Branch.texts.setList (listKey key) list ttl b₁ = (.error .abandoned, _) :=
      setList_of_le hworking.2 hbound
    rw [lookup_of_unwritten hread hmissed hanswer hwrite]
    exact ⟨iff_of_false nofun (Nat.not_lt.2 hbound), iff_of_true rfl hbound⟩

end

/-- **A time to live that settings admit can be used just as far as the clock goes.** If the clock
reaches its deadline, what is stored for it is there at once, and a list that a lookup has fetched
is the outcome. If not, storing is abandoned, with nothing gone but what has expired, and so is the
lookup. -/
theorem accepted_ttl_kept_iff {vars : Settings.Variables} {settings : Settings.BranchSettings}
    (h : Settings.BranchSettings.read vars = .ok settings) :
    (∃ seconds, 1 ≤ seconds ∧ seconds ≤ Settings.largestLong ∧
      settings.cacheTtl = 1000 * seconds) ∧
    (∀ now, MemoryCache.Keeps settings.cacheTtl now ↔ now + settings.cacheTtl < clockBound) ∧
    (∀ c key text, clockBound ≤ c.now + settings.cacheTtl →
      MemoryCache.texts.set key text settings.cacheTtl c =
        (.error .abandoned, { c with entries := c.entries.living c.now })) ∧
    ∀ (b : Branch Supply) key list, Working b.cache.faults →
      Missed (Branch.texts.getList (listKey key) b).1 → answer b key = .ok list →
        ((lookup settings.cacheTtl key b).1 = .ok list ↔
          clock b + settings.cacheTtl < clockBound) ∧
        ((lookup settings.cacheTtl key b).1 = .error .abandoned ↔
          clockBound ≤ clock b + settings.cacheTtl) := by
  obtain ⟨seconds, hpos, hle, httl⟩ := Settings.seconds_of_read h
  have hpos' : 0 < settings.cacheTtl := by omega
  exact ⟨⟨seconds, hpos, hle, httl⟩, fun _ ↦ MemoryCache.keeps_iff hpos',
    fun _ _ _ ↦ MemoryCache.set_of_le, fun _ _ _ ↦ lookup_of_told_iff⟩

/-- A second less than the clock has can be used in its first second, and no longer. -/
theorem accepted_ttl_kept_iff_half : ∃ settings,
    Settings.BranchSettings.read (Settings.onlyTtl "9223372036854775807") = .ok settings ∧
      MemoryCache.Keeps settings.cacheTtl 999 ∧ ¬MemoryCache.Keeps settings.cacheTtl 1000 := by
  obtain ⟨settings, hread, httl⟩ := Settings.exists_read_of_cacheTtl
    (Settings.onlyTtl "9223372036854775807") 9223372036854775807000 (by decide +kernel)
  have hkeeps := (accepted_ttl_kept_iff hread).2.1
  rw [httl] at hkeeps
  refine ⟨settings, hread, ?_, ?_⟩
  · rw [httl]
    exact (hkeeps 999).2 (by decide)
  · rw [httl]
    exact fun h ↦ absurd ((hkeeps 1000).1 h) (by decide)

/-- **The longest time that settings admit can never be used**: a text is not stored for it even by
a clock that stands at nothing, and a lookup is abandoned although master data has told it the list
and the cache works. -/
theorem longest_ttl_abandons :
    let c : Contribution :=
      { id := "c", period := ⟨2025, 1, by decide, by decide, by decide⟩, rssbNumber := "1",
        matricule := "2", amount := Amount.largest, createdAt := .startOf .epoch,
        updatedAt := .startOf .epoch }
    ∃ settings,
      Settings.BranchSettings.read (Settings.onlyTtl "18446744073709551615") = .ok settings ∧
      (∀ now, ¬MemoryCache.Keeps settings.cacheTtl now) ∧
      (MemoryCache.texts.set "contributions:1" "[]" settings.cacheTtl ⟨0, []⟩).1 =
        .error .abandoned ∧
      Working (branchTold c).cache.faults ∧ answer (branchTold c) "1" = .ok [c] ∧
      (lookup settings.cacheTtl "1" (branchTold c)).1 = .error .abandoned := by
  intro c
  obtain ⟨settings, hread, httl⟩ := Settings.exists_read_of_cacheTtl
    (Settings.onlyTtl "18446744073709551615") 18446744073709551615000 (by decide +kernel)
  have hpos : 0 < settings.cacheTtl := by
    rw [httl]
    decide
  -- no reading of the clock is early enough
  have hbound (now : Nat) : clockBound ≤ now + settings.cacheTtl := by
    refine Nat.le_trans ?_ (Nat.le_add_left ..)
    rw [httl]
    decide
  have hanswer : answer (branchTold c) "1" = .ok [c] := by decide +kernel
  refine ⟨settings, hread, fun now ↦ ?_, ?_, ⟨rfl, rfl⟩, hanswer, ?_⟩
  · rw [MemoryCache.keeps_iff hpos]
    exact Nat.not_lt.2 (hbound now)
  · rw [MemoryCache.set_of_le (hbound 0)]
  · exact (lookup_of_told_iff ⟨rfl, rfl⟩ (.inl rfl) hanswer).2.2 (hbound 0)

end Cache

end ContributionRegistry
