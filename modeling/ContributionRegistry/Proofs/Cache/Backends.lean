import ContributionRegistry.Proofs.Cache.KeyValueServer
import ContributionRegistry.Settings.Branch

/-!
# Caches in memory and at a server

Asked the same in the same order, a cache in memory and one at a server give the same texts and the
same counts (`caches_agree`), if texts are kept for whole seconds, as the settings have it, and
patterns are plain beginnings with a star.

In memory what has expired may stay for a while, at the server it does not. But both have what was
written last under each key while it is good (`Abreast`), and that is all that is ever told. A call
keeps that and is replied to alike (`Abreast.reply`), so by induction a whole sequence of calls is.

How many pages a count at the server takes depends on what is stored and on the habits of the
server. So the statement is that there is a number of pages that is enough for the whole sequence.
-/

namespace ContributionRegistry

/-! ### Times to live as they are set -/

namespace Settings

/-- The settings give whole seconds, and at least one. -/
theorem whole_of_readCacheTtl {vars : Variables} {ttl : Nat} (h : readCacheTtl vars = .ok ttl) :
    ∃ seconds, 1 ≤ seconds ∧ ttl = 1000 * seconds := by
  obtain ⟨seconds, -, h⟩ := bind_eq_ok h
  split at h
  · cases h
  · next hzero =>
    cases h
    exact ⟨seconds, Nat.one_le_iff_ne_zero.2 hzero, rfl⟩

/-- Times to live are whole seconds, at least one, however the settings are written. -/
theorem whole_of_read {vars : Variables} {settings : BranchSettings}
    (h : BranchSettings.read vars = .ok settings) :
    ∃ seconds, 1 ≤ seconds ∧ settings.cacheTtl = 1000 * seconds :=
  whole_of_readCacheTtl (BranchSettings.of_read h).1

end Settings

/-! ### What a cache is asked -/

namespace TextCache

/-- What a cache is asked. -/
inductive Call where
  | get (key : String)
  | set (key text : String) (ttl : Nat)
  | count (pattern : String)

/-- What it replies. -/
inductive Reply where
  | found (outcome : Attempt StoreError (Option String))
  | stored (outcome : Attempt StoreError Unit)
  | counted (outcome : Attempt StoreError Nat)

/-- What happens: a call, or that time passes. -/
inductive Event where
  | called (call : Call)
  | passed (span : Nat)

variable {σ : Type}

/-- The reply to a call, and what it leaves behind. -/
def reply (cache : TextCache σ) : Call → σ → Reply × σ
  | .get key, s => (cache.get key s).map .found id
  | .set key text ttl, s => (cache.set key text ttl s).map .stored id
  | .count pattern, s => (cache.count pattern s).map .counted id

/-- The replies to the calls among what happens, one after another; `pass` lets time pass. -/
def replies (cache : TextCache σ) (pass : Nat → σ → σ) : List Event → σ → List Reply
  | [], _ => []
  | .called call :: later, s =>
    (cache.reply call s).1 :: cache.replies pass later (cache.reply call s).2
  | .passed span :: later, s => cache.replies pass later (pass span s)

end TextCache

namespace Cache

open CacheServer (texts)
open KeyValues (serve)
open TextCache (Call Event Reply)

/-! ### What both can be asked -/

/-- What both kinds of caches can be asked at a reading of the clock: texts are kept for whole
seconds, which neither clock ends before, and patterns are plain beginnings with a star. -/
def Common (limit now : Nat) : Call → Prop
  | .get _ => True
  | .set _ _ ttl => ∃ seconds, 1 ≤ seconds ∧ ttl = 1000 * seconds ∧ now + ttl < clockBound ∧
      now + ttl ≤ limit
  | .count pattern => ∃ start, Plain start ∧ pattern = start ++ "*"

/-- All calls are of this kind, from a reading of the clock on. -/
def AllCommon (limit : Nat) : Nat → List Event → Prop
  | _, [] => True
  | now, .called call :: later => Common limit now call ∧ AllCommon limit now later
  | now, .passed span :: later => AllCommon limit (now + span) later

/-! ### Memory and server side by side -/

/-- Memory and server have what was written last under each key, as far as it is good. -/
structure Abreast (last : String → Option Entry) (m : MemoryCache) (s : KeyValues) : Prop where
  /-- The two clocks show the same. -/
  clock : s.now = m.now
  /-- The cache in memory reflects what was last written. -/
  memory : m.entries.Reflects m.now last
  /-- So does the server. -/
  server : s.entries.Reflects m.now last
  /-- The server has nothing else. -/
  good : ∀ e ∈ s.entries, m.now < e.deadline

section

variable {h : Habits} {last : String → Option Entry} {m : MemoryCache} {s : KeyValues}

/-- The server has nothing that has expired. -/
theorem Abreast.living (habreast : Abreast last m s) : s.entries.living m.now = s.entries :=
  List.filter_eq_self.2 fun e he ↦ decide_eq_true (habreast.good e he)

theorem Abreast.advance (habreast : Abreast last m s) (span : Nat) :
    Abreast last (m.advance span) (s.advance span) := by
  have hclock : s.now + span = m.now + span := by rw [habreast.clock]
  have hle : m.now ≤ m.now + span := Nat.le_add_right _ _
  refine ⟨hclock, habreast.memory.mono hle, ?_, fun e he ↦ ?_⟩
  · show (s.entries.living (s.now + span)).Reflects (m.now + span) last
    rw [hclock]
    exact (habreast.server.mono hle).living (Nat.le_refl _)
  · have hlive := (List.mem_filter.1 he).2
    rw [hclock] at hlive
    exact of_decide_eq_true hlive

/-- Both put what is written in place of what is under its key. -/
theorem Abreast.write (habreast : Abreast last m s) {e : Entry} (hgood : m.now < e.deadline) :
    Abreast (Function.update last e.key (some e))
      { m with entries := (m.entries.living m.now).drop e.key ++ [e] }
      { s with entries := s.entries.drop e.key ++ [e] } := by
  refine ⟨habreast.clock, (habreast.memory.living (Nat.le_refl _)).replace e,
    habreast.server.replace e, ?_⟩
  intro e' he'
  rcases List.mem_append.1 he' with he' | he'
  · exact habreast.good e' (List.mem_filter.1 he').1
  · rw [List.mem_singleton.1 he']
    exact hgood

/-- The server finds what is found in memory. -/
theorem Abreast.get_eq (habreast : Abreast last m s) (key : String) :
    s.text? key = (m.entries.get m.now key).1 := by
  rw [habreast.memory.get_eq, ← habreast.server.get_eq, KeyValues.text?, Entries.get]
  rcases hentry : s.entries.entry? key with _ | e
  · rfl
  · have hlive : e.live m.now = true :=
      decide_eq_true (habreast.good e (List.mem_of_find?_eq_some hentry))
    simp only [hlive, if_true, Option.map_some]

/-- They count the same keys. -/
theorem Abreast.count_eq (habreast : Abreast last m s) {start : String} (hplain : Plain start) :
    ((s.entries.map Entry.key).filter (h.glob (start ++ "*"))).length =
      (m.entries.count m.now (start ++ "*")).1 := by
  have hkeys : s.entries.map Entry.key = s.entries.liveKeys m.now := by
    rw [Entries.liveKeys, habreast.living]
  have hperm : (s.entries.liveKeys m.now).Perm (m.entries.liveKeys m.now) := by
    refine (List.perm_ext_iff_of_nodup habreast.server.nodup_liveKeys
      habreast.memory.nodup_liveKeys).2 fun key ↦ ?_
    rw [habreast.server.mem_liveKeys_iff, habreast.memory.mem_liveKeys_iff]
  have hpattern (key : String) : h.glob (start ++ "*") key =
      Entries.matchesPattern (start ++ "*").toList key.toList := by
    rw [Bool.eq_iff_iff, h.glob_start start key hplain, Entries.matchesPattern_start_iff]
  rw [Entries.count_eq_length, hkeys, (hperm.filter _).length_eq]
  exact congrArg List.length (List.filter_congr fun key _ ↦ hpattern key)

/-- **A call is answered alike**, if the server may be asked for enough pages. -/
theorem Abreast.reply (habreast : Abreast last m s) {call : Call}
    (hcommon : Common h.limit m.now call) :
    ∃ last' s', Abreast last' (MemoryCache.texts.reply call m).2 s' ∧
      (MemoryCache.texts.reply call m).2.now = m.now ∧
      ∃ enough, ∀ pages, enough ≤ pages → (texts (serve h) pages).reply call s =
        ((MemoryCache.texts.reply call m).1, s') := by
  cases call with
  | get key =>
    refine ⟨last, s, ⟨habreast.clock, habreast.memory.get key, habreast.server, habreast.good⟩, rfl,
      0, fun pages _ ↦ ?_⟩
    rw [TextCache.reply, KeyValues.get_serve, habreast.get_eq]
    rfl
  | set key text ttl =>
    obtain ⟨seconds, hpos, rfl, hbound, hlimit⟩ := hcommon
    let e : Entry := ⟨key, text, m.now + 1000 * seconds⟩
    have hmemory : MemoryCache.texts.set key text (1000 * seconds) m =
        (.ok (), { m with entries := (m.entries.living m.now).drop e.key ++ [e] }) := by
      simp only [MemoryCache.texts, Entries.set, if_pos hbound, e]
    have hgood : m.now < e.deadline := by
      show m.now < m.now + 1000 * seconds
      omega
    rw [TextCache.reply, hmemory]
    refine ⟨_, _, habreast.write hgood, rfl, 0, fun pages _ ↦ ?_⟩
    rw [← habreast.clock] at hlimit
    rw [TextCache.reply, KeyValues.set_serve hpos hlimit, habreast.clock]
    rfl
  | count pattern =>
    obtain ⟨start, hplain, rfl⟩ := hcommon
    -- how many pages are enough is the server's affair; the count is the same for all of them
    obtain ⟨enough, s', hnow, hentries, hcount⟩ := KeyValues.count_serve h (start ++ "*") s
    refine ⟨last, s', ⟨hnow.trans habreast.clock, habreast.memory.living (Nat.le_refl _), ?_, ?_⟩,
      rfl, enough, fun pages hpages ↦ ?_⟩
    · rw [hentries]
      exact habreast.server
    · rw [hentries]
      exact habreast.good
    · rw [TextCache.reply, hcount pages hpages, habreast.count_eq hplain]
      rfl

/-- The same calls are replied to alike. -/
theorem Abreast.replies (habreast : Abreast last m s) {events : List Event}
    (hcommon : AllCommon h.limit m.now events) :
    ∃ enough, ∀ pages, enough ≤ pages →
      (texts (serve h) pages).replies KeyValues.advance events s =
        MemoryCache.texts.replies MemoryCache.advance events m := by
  induction events generalizing last m s with
  | nil => exact ⟨0, fun _ _ ↦ rfl⟩
  | cons event events ih =>
    rcases event with call | span
    · obtain ⟨hcall, hlater⟩ := hcommon
      obtain ⟨last', s', hnext, hnow, enough, hreply⟩ := habreast.reply hcall
      obtain ⟨enough', hreplies⟩ := ih hnext (by rwa [hnow])
      refine ⟨max enough enough', fun pages hpages ↦ ?_⟩
      have hfirst := hreply pages (Nat.le_trans (Nat.le_max_left ..) hpages)
      have hrest := hreplies pages (Nat.le_trans (Nat.le_max_right ..) hpages)
      rw [TextCache.replies, TextCache.replies, hfirst, hrest]
    · exact ih (habreast.advance span) hcommon

/-- **A cache in memory and one at a server reply alike**, whatever the calls and whenever they
come, if the server may be asked for enough pages. Texts are kept for whole seconds if they are kept
for the time that is set. -/
theorem caches_agree (h : Habits) (time : Nat) {events : List Event}
    (hcommon : AllCommon h.limit time events) :
    (∃ enough, ∀ pages, enough ≤ pages →
      (texts (serve h) pages).replies KeyValues.advance events ⟨time, [], 0, []⟩ =
        MemoryCache.texts.replies MemoryCache.advance events ⟨time, []⟩) ∧
    ∀ vars settings, Settings.BranchSettings.read vars = .ok settings →
      ∃ seconds, 1 ≤ seconds ∧ settings.cacheTtl = 1000 * seconds := by
  have hempty : Abreast (fun _ ↦ none) ⟨time, []⟩ ⟨time, [], 0, []⟩ :=
    ⟨rfl, Entries.reflects_nil time, Entries.reflects_nil time, nofun⟩
  exact ⟨hempty.replies hcommon, fun _ _ ↦ Settings.whole_of_read⟩

end

/-- A server that shows every key on a page of its own, and an empty page before and after. -/
def pageByPage : Habits where
  layOut _ keys := [] :: (keys.map fun key ↦ [key]) ++ [[]]
  perm _ keys := by
    rw [List.cons_append, List.flatten_cons, List.flatten_append, ← List.flatMap_def,
      List.flatMap_singleton']
    exact List.Perm.of_eq (List.append_nil keys)
  cursor _ left := if left ≤ 100 then left + 17 else 1
  cursor_ne_zero _ left := by split <;> omega
  cursor_le _ left := by
    unfold Settings.largestLong
    split <;> omega
  glob pattern key := Entries.matchesPattern pattern.toList key.toList
  glob_start start key _ := Entries.matchesPattern_start_iff start key
  limit := 9223372036854775807

/-- Two lists for a minute and a text under another key: a millisecond before the minute is over
they are found and counted, and when it is over they are not. -/
theorem caches_agree_for_a_minute :
    let events : List Event := [.called (.set "contributions:1" "[]" 60000), .passed 1,
      .called (.set "contributions:2" "[]" 60000), .called (.set "other" "[]" 120000),
      .passed 59998, .called (.get "contributions:1"), .called (.count "contributions:*"),
      .passed 1, .called (.get "contributions:1"), .called (.count "contributions:*")]
    ∃ enough, ∀ pages, enough ≤ pages →
      (texts (serve pageByPage) pages).replies KeyValues.advance events ⟨0, [], 0, []⟩ =
        [.stored (.ok ()), .stored (.ok ()), .stored (.ok ()), .found (.ok (some "[]")),
          .counted (.ok 2), .found (.ok none), .counted (.ok 1)] := by
  intro events
  have hcount : ∃ start, Plain start ∧ "contributions:*" = start ++ "*" :=
    ⟨"contributions:", by decide, rfl⟩
  have hcommon : AllCommon pageByPage.limit 0 events :=
    ⟨⟨60, by decide, by decide, by decide, by decide⟩,
      ⟨60, by decide, by decide, by decide, by decide⟩,
      ⟨120, by decide, by decide, by decide, by decide⟩, trivial, hcount, trivial, hcount, trivial⟩
  obtain ⟨⟨enough, hagree⟩, -⟩ := caches_agree pageByPage 0 hcommon
  refine ⟨enough, fun pages hpages ↦ ?_⟩
  rw [hagree pages hpages]
  rfl

end Cache

end ContributionRegistry
