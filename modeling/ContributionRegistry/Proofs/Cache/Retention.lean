import ContributionRegistry.Proofs.Cache.Staleness
import Mathlib.Control.Monad.Basic

/-!
# How long a contribution list stays

A list that a lookup has put in the cache answers all lookups for its key until its time is up, and
none from then on, whatever else happens meanwhile (`lookup_retained`).

What carries this is `Entries.Holds`: the entry is the only one under its key, and as long as it is
good it is there. Looking entries up, counting them and writing under other keys keeps that, at
whatever time; under its own key nothing is written while it is good, because a lookup that finds it
has no need to.

* `Spares` says of two branches that what the first one's cache holds the second one's does; each
  call on the cache is shown to spare an entry once, and what a lookup does to it follows along its
  course (`spares_lookup`).
* `Serves` adds that the cache works, so that what is held is also told.
* `Happening.Harmless` is what may happen in the meantime: anything but the cache failing.
-/

namespace ContributionRegistry.Cache

open Deployment (Branch)

/-! ### One entry among the others -/

namespace Entries

/-- The entry is the only one under its key, and it is there as long as it is good. -/
structure Holds (es : Entries) (now : Nat) (e : Entry) : Prop where
  /-- There is no other entry under the key. -/
  only : ∀ e' ∈ es, e'.key = e.key → e' = e
  /-- As long as it is good, the entry is there. -/
  present : now < e.deadline → e ∈ es

variable {es : Entries} {now : Nat} {e : Entry}

/-- A good entry is what is found under its key. -/
theorem Holds.get_of_lt (h : es.Holds now e) (hlive : now < e.deadline) :
    es.get now e.key = (some e.text, es) := by
  have hentry : es.entry? e.key = some e := by
    obtain ⟨e', he'⟩ : ∃ e', es.entry? e.key = some e' := by
      rw [← Option.isSome_iff_exists, entry?, List.find?_isSome]
      exact ⟨e, h.present hlive, beq_self_eq_true e.key⟩
    have hkey : e'.key = e.key := by simpa using List.find?_some he'
    rwa [h.only e' (List.mem_of_find?_eq_some he') hkey] at he'
  have hgood : e.live now = true := decide_eq_true hlive
  simp only [Entries.get, hentry, hgood, if_true]

/-- Once it is not good any more, nothing is found under its key. -/
theorem Holds.get_of_le (h : es.Holds now e) (hexpired : e.deadline ≤ now) :
    (es.get now e.key).1 = none := by
  rcases hget : es.get now e.key with ⟨found, es'⟩
  obtain ⟨-, hfound⟩ := mem_of_get hget
  rcases hfound with hfound | ⟨e', he', hkey, hlive, -⟩
  · exact hfound
  · rw [h.only e' he' hkey] at hlive
    exact absurd hlive (Nat.not_lt.2 hexpired)

theorem Holds.get (h : es.Holds now e) (key : String) : (es.get now key).2.Holds now e := by
  rcases hget : es.get now key with ⟨found, es'⟩
  obtain ⟨hmem, -⟩ := mem_of_get hget
  refine ⟨fun e' he' ↦ h.only e' (hmem e' he'), fun hlive ↦ ?_⟩
  -- only an expired entry is dropped, and `e` is the only one under its key
  by_cases hkey : key = e.key
  · rw [hkey, h.get_of_lt hlive] at hget
    cases hget
    exact h.present hlive
  · unfold Entries.get at hget
    split at hget
    · cases hget
      exact h.present hlive
    · split at hget
      · cases hget
        exact h.present hlive
      · cases hget
        exact List.mem_filter.2 ⟨h.present hlive, by simpa using Ne.symm hkey⟩

theorem Holds.living (h : es.Holds now e) : (es.living now).Holds now e where
  only e' he' := h.only e' (List.mem_filter.1 he').1
  present hlive := List.mem_filter.2 ⟨h.present hlive, decide_eq_true hlive⟩

theorem Holds.count (h : es.Holds now e) (pattern : String) :
    (es.count now pattern).2.Holds now e := h.living

/-- A writing beyond the end of the clock only drops what has expired. -/
theorem eq_living_of_set {key text : String} {ttl : Nat} {es' : Entries}
    (h : es.set now key text ttl = (none, es')) : es' = es.living now := by
  unfold Entries.set at h
  split at h <;> cases h
  rfl

/-- Writing under another key keeps what is held. -/
theorem Holds.set (h : es.Holds now e) {key : String} (hne : key ≠ e.key) (text : String)
    (ttl : Nat) : (es.set now key text ttl).2.Holds now e := by
  unfold Entries.set
  split
  · refine ⟨fun e' he' hkey ↦ ?_, fun hlive ↦ ?_⟩
    · rcases List.mem_append.1 he' with he' | he'
      · exact h.living.only e' (List.mem_filter.1 he').1 hkey
      · rw [List.mem_singleton.1 he'] at hkey
        exact absurd hkey hne
    · have hkept : e ∈ (es.living now).drop key :=
        List.mem_filter.2 ⟨h.living.present hlive, by simpa using Ne.symm hne⟩
      exact List.mem_append_left _ hkept
  · exact h.living

theorem Holds.mono (h : es.Holds now e) {now' : Nat} (hle : now ≤ now') : es.Holds now' e :=
  ⟨h.only, fun hlive ↦ h.present (Nat.lt_of_le_of_lt hle hlive)⟩

/-- What is written is held from then on. -/
theorem holds_of_set {key text : String} {ttl : Nat} {es' : Entries}
    (h : es.set now key text ttl = (some (), es')) : es'.Holds now ⟨key, text, now + ttl⟩ := by
  unfold Entries.set at h
  split at h
  · cases h
    refine ⟨fun e' he' hkey ↦ ?_, fun _ ↦ List.mem_append_right _ (List.mem_singleton_self _)⟩
    rcases List.mem_append.1 he' with he' | he'
    · have hdropped : e'.key ≠ key := by simpa using (List.mem_filter.1 he').2
      exact absurd hkey hdropped
    · exact List.mem_singleton.1 he'
  · cases h

end Entries

/-! ### A cache that works -/

/-- The cache can be read and written. -/
def Working (faults : CacheFaults) : Prop := faults.get = false ∧ faults.set = false

section

variable {b b' : Branch Supply} {key : String}

/-- A cache that can be read gives what is under the key. -/
theorem getList_of_readable (h : b.cache.faults.get = false) (key : String) :
    Branch.texts.getList key b =
      (TextCache.decodeFound ((residents b).get (clock b) key).1,
        withResidents b ((residents b).get (clock b) key).2) := by
  have hget : b.cache.faults.get ≠ true := by rw [h]; decide
  unfold TextCache.getList Action.next
  rw [get_eq, if_neg hget]
  rfl

/-- A cache that cannot be read fails and is left as it was. -/
theorem getList_of_unreadable (h : b.cache.faults.get = true) (key : String) :
    Branch.texts.getList key b = (Attempt.refuse SwitchedCache.fault, b) := by
  unfold TextCache.getList Action.next
  rw [get_eq, if_pos h]
  rfl

/-- A cache that can be written to has the list under the key. -/
theorem setList_of_writable (h : b.cache.faults.set = false) (key : String)
    (list : List Contribution) (ttl : Nat) :
    Branch.texts.setList key list ttl b =
      match (residents b).set (clock b) key (TextCache.encodeList list) ttl with
      | (some (), es) => (.ok (), withResidents b es)
      | (none, es) => (.error .abandoned, withResidents b es) := by
  have hset : b.cache.faults.set ≠ true := by rw [h]; decide
  rcases hes : (residents b).set (clock b) key (TextCache.encodeList list) ttl with ⟨_ | _, es⟩
  all_goals simp only [TextCache.setList, set_eq, if_neg hset, hes]

/-- A cache that cannot be written to fails and is left as it was. -/
theorem setList_of_unwritable (h : b.cache.faults.set = true) (key : String)
    (list : List Contribution) (ttl : Nat) :
    Branch.texts.setList key list ttl b = (Attempt.refuse SwitchedCache.fault, b) := by
  simp only [TextCache.setList, set_eq, if_pos h]

end

/-- A lookup takes one of the courses. -/
theorem course_lookup (ttl : Nat) (key : String) (b : Branch Supply) :
    Course (Branch.lists Supply.masterData ttl) key b (lookup ttl key b).1 (lookup ttl key b).2 :=
  course_fetch (Branch.lists Supply.masterData ttl) key b

/-- A lookup that misses asks master data once. -/
theorem asks_lookup_of_missed {ttl : Nat} {key : String} {b : Branch Supply}
    (h : Missed (Branch.texts.getList (listKey key) b).1) :
    asks (lookup ttl key b).2 = asks b + 1 := by
  have hcourse := course_lookup ttl key b
  generalize (Cache.lookup ttl key b).1 = outcome at hcourse
  generalize (Cache.lookup ttl key b).2 = b' at hcourse ⊢
  cases hcourse with
  | cached hread => exact absurd (congrArg Prod.fst hread) (h.ne_list _)
  | unread hread => exact absurd (congrArg Prod.fst hread) h.ne_abandoned
  | unanswered hread hmissed hask => exact (asked_effect hread hask).2.2.1
  | fetched hread hmissed hask hwrite hended => exact (written_effect hread hask hwrite).2.1
  | unwritten hread hmissed hask hwrite => exact (written_effect hread hask hwrite).2.1

/-! ### What spares an entry -/

/-- The same calls on the cache fail as before, and it holds the entry if it did. -/
structure Spares (e : Entry) (b b' : Branch Supply) : Prop where
  /-- The switches stand as they did. -/
  faults : b'.cache.faults = b.cache.faults
  /-- What was held is held. -/
  holds : (residents b).Holds (clock b) e → (residents b').Holds (clock b') e

section

variable {e : Entry} {b b' b'' : Branch Supply} {key : String} {ttl : Nat}

theorem Spares.trans (h : Spares e b b') (h' : Spares e b' b'') : Spares e b b'' :=
  ⟨h'.faults.trans h.faults, fun hholds ↦ h'.holds (h.holds hholds)⟩

theorem spares_getList (e : Entry) {found : Attempt StoreError (Option (List Contribution))}
    (hread : Branch.texts.getList key b = (found, b')) : Spares e b b' := by
  rcases hget : b.cache.faults.get with _ | _
  · rw [getList_of_readable hget] at hread
    cases hread
    exact ⟨rfl, fun hholds ↦ hholds.get key⟩
  · rw [getList_of_unreadable hget] at hread
    cases hread
    exact ⟨rfl, id⟩

theorem spares_setList (hne : key ≠ e.key) {list : List Contribution}
    {written : Attempt StoreError Unit}
    (hwrite : Branch.texts.setList key list ttl b = (written, b')) : Spares e b b' := by
  rcases hset : b.cache.faults.set with _ | _
  · rw [setList_of_writable hset] at hwrite
    have hkept : (residents b).Holds (clock b) e →
        ((residents b).set (clock b) key (TextCache.encodeList list) ttl).2.Holds (clock b) e :=
      fun hholds ↦ hholds.set hne _ ttl
    rcases hes : (residents b).set (clock b) key (TextCache.encodeList list) ttl with ⟨_ | _, es⟩
    all_goals
      rw [hes] at hwrite hkept
      cases hwrite
      exact ⟨rfl, hkept⟩
  · rw [setList_of_unwritable hset] at hwrite
    cases hwrite
    exact ⟨rfl, id⟩

theorem spares_hit (e : Entry) (ttl : Nat) (b : Branch Supply) :
    Spares e b ((Branch.lists Supply.masterData ttl).hit b) := ⟨rfl, id⟩

theorem spares_ask (e : Entry) {told : Attempt RemoteError (List Contribution)}
    (hask : (Branch.source Supply.masterData).contributions key
      ((Branch.lists Supply.masterData ttl).miss b) = (told, b')) : Spares e b b' := by
  cases hask
  exact ⟨rfl, id⟩

theorem spares_stats (e : Entry) (ttl : Nat) (b : Branch Supply) :
    Spares e b (stats (Branch.lists Supply.masterData ttl) b).2 := by
  rw [stats_state, count_eq]
  split
  · exact ⟨rfl, id⟩
  · exact ⟨rfl, fun hholds ↦ hholds.count (listKeyStart ++ "*")⟩

/-- A lookup for another key leaves the entry where it is. -/
theorem spares_lookup (ttl : Nat) (b : Branch Supply) (hne : listKey key ≠ e.key) :
    Spares e b (lookup ttl key b).2 := by
  have hcourse := course_lookup ttl key b
  generalize (lookup ttl key b).1 = outcome at hcourse
  generalize (lookup ttl key b).2 = b' at hcourse ⊢
  -- whichever course it takes, it is made of calls that spare the entry
  cases hcourse with
  | cached hread => exact (spares_getList e hread).trans (spares_hit e ttl _)
  | unread hread => exact spares_getList e hread
  | unanswered hread hmissed hask => exact (spares_getList e hread).trans (spares_ask e hask)
  | fetched hread hmissed hask hwrite hended =>
    exact ((spares_getList e hread).trans (spares_ask e hask)).trans (spares_setList hne hwrite)
  | unwritten hread hmissed hask hwrite =>
    exact ((spares_getList e hread).trans (spares_ask e hask)).trans (spares_setList hne hwrite)

end

/-! ### What a good entry is worth -/

section

variable {e : Entry} {b : Branch Supply} {key : String} {list : List Contribution}

/-- Reading a good entry settles a lookup. -/
theorem reading_of_holds (ttl : Nat) (hget : b.cache.faults.get = false)
    (hholds : (residents b).Holds (clock b) e) (hkey : e.key = listKey key)
    (hlive : clock b < e.deadline) (hdecode : TextCache.decodeList e.text = .ok list) :
    (Lookup.reading key).step (Branch.lists Supply.masterData ttl) b =
      (.settled (.ok list), (Branch.lists Supply.masterData ttl).hit b) := by
  have hread : (Branch.lists Supply.masterData ttl).cache.getList (listKey key) b =
      (.ok (some list), b) := by
    show Branch.texts.getList (listKey key) b = _
    rw [getList_of_readable hget, ← hkey, hholds.get_of_lt hlive, TextCache.decodeFound, hdecode]
    rfl
  simp only [Lookup.step, hread]

/-- **A good entry is a hit**: the lookup comes out with what the text decodes to, and all it
changes is the tally. -/
theorem lookup_of_holds (ttl : Nat) (hget : b.cache.faults.get = false)
    (hholds : (residents b).Holds (clock b) e) (hkey : e.key = listKey key)
    (hlive : clock b < e.deadline) (hdecode : TextCache.decodeList e.text = .ok list) :
    lookup ttl key b = (.ok list, (Branch.lists Supply.masterData ttl).hit b) :=
  fetch_eq_ending (reading_of_holds ttl hget hholds hkey hlive hdecode)

end

/-- The cache of the branch works and holds the entry. -/
structure Serves (e : Entry) (b : Branch Supply) : Prop where
  /-- Lists can be read from the cache and written to it. -/
  working : Working b.cache.faults
  /-- The cache holds the entry. -/
  holds : (residents b).Holds (clock b) e

section

variable {e : Entry} {b b' : Branch Supply} {key : String}

/-- What is spared goes on being served. -/
theorem Serves.of_spares (h : Serves e b) (hspares : Spares e b b') : Serves e b' :=
  ⟨hspares.faults ▸ h.working, hspares.holds h.holds⟩

/-- What is written is what the cache serves. -/
theorem serves_of_setList (h : Working b.cache.faults) {list : List Contribution} {ttl : Nat}
    (hwrite : Branch.texts.setList key list ttl b = (.ok (), b')) :
    Serves ⟨key, TextCache.encodeList list, clock b + ttl⟩ b' := by
  rw [setList_of_writable h.2] at hwrite
  rcases hset : (residents b).set (clock b) key (TextCache.encodeList list) ttl with ⟨_ | _, es⟩
  all_goals
    rw [hset] at hwrite
    cases hwrite
  exact ⟨h, Entries.holds_of_set hset⟩

/-- As long as the entry is good a lookup finds its list. -/
theorem Serves.lookup_of_lt (h : Serves e b) (ttl : Nat) {list : List Contribution}
    (hkey : e.key = listKey key) (hlive : clock b < e.deadline)
    (hdecode : TextCache.decodeList e.text = .ok list) :
    Cache.lookup ttl key b = (.ok list, (Branch.lists Supply.masterData ttl).hit b) :=
  lookup_of_holds ttl h.working.1 h.holds hkey hlive hdecode

/-- Once the entry has expired, a lookup asks master data once. -/
theorem Serves.asks_lookup_of_le (h : Serves e b) (ttl : Nat) (hkey : e.key = listKey key)
    (hexpired : e.deadline ≤ clock b) : asks (Cache.lookup ttl key b).2 = asks b + 1 := by
  have hread : (Branch.texts.getList (listKey key) b).1 = .ok none := by
    rw [getList_of_readable h.working.1, ← hkey, h.holds.get_of_le hexpired]
    rfl
  exact asks_lookup_of_missed (.inl hread)

/-- A list that was missing and that master data has given is held from then on. -/
theorem serves_of_missed {ttl : Nat} {list : List Contribution} (hworking : Working b.cache.faults)
    (hmissed : Missed (Branch.texts.getList (listKey key) b).1)
    (hlist : (lookup ttl key b).1 = .ok list) :
    Serves ⟨listKey key, TextCache.encodeList list, clock b + ttl⟩ (lookup ttl key b).2 := by
  have hcourse := course_lookup ttl key b
  rw [hlist] at hcourse
  generalize (lookup ttl key b).2 = b' at hcourse ⊢
  cases hcourse with
  | cached hread => exact absurd (congrArg Prod.fst hread) (hmissed.ne_list _)
  | @fetched found _ written b₁ b₂ _ hread hmissed hask hwrite hended =>
    obtain ⟨hclock, -⟩ := asked_effect hread hask
    have hworking₂ : Working b₂.cache.faults := by
      obtain ⟨⟨es, rfl⟩, -⟩ := getList_effect hread
      have hfaults : b.cache.faults = b₂.cache.faults :=
        congrArg (fun answered ↦ answered.2.cache.faults) hask
      exact hfaults ▸ hworking
    -- the lookup came out with a list, so the clock had a deadline for it, and the cache works
    have hwritten : written = .ok () := by
      have hwrite' := hwrite
      rw [show (Branch.lists Supply.masterData ttl).cache.setList = Branch.texts.setList from rfl,
        setList_of_writable hworking₂.2] at hwrite'
      split at hwrite'
      · cases hwrite'
        rfl
      · cases hwrite'
        exact absurd rfl hended
    subst hwritten
    rw [← hclock]
    exact serves_of_setList hworking₂ hwrite

end

/-! ### What happens meanwhile -/

/-- Whatever it is that happens, the cache works afterwards if it worked before. -/
def Happening.Harmless : Happening → Prop
  | .faults switched => Working switched
  | _ => True

theorem clock_le_after (ttl : Nat) (b : Branch Supply) (between : List Happening) :
    clock b ≤ clock (after ttl b between) :=
  History.run_grows (R := fun b b' ↦ clock b ≤ clock b') (fun _ ↦ Nat.le_refl _) Nat.le_trans
    (fun b happening ↦ (step_effect ttl b happening).1) between

section

variable {ttl : Nat} {key : String} {e : Entry} {list : List Contribution} {b : Branch Supply}

/-- Whatever happens, the entry is held, unless its key is looked up after its time. -/
theorem Serves.step (h : Serves e b) (hkey : e.key = listKey key)
    (hdecode : TextCache.decodeList e.text = .ok list) {happening : Happening}
    (hharmless : happening.Harmless) (hearly : happening = .lookup key → clock b < e.deadline) :
    Serves e (step ttl b happening) := by
  cases happening with
  | lookup key' =>
    by_cases hsame : key' = key
    · subst hsame
      rw [Cache.step, h.lookup_of_lt ttl hkey (hearly rfl) hdecode]
      exact h.of_spares (spares_hit e ttl b)
    · refine h.of_spares (spares_lookup ttl b fun hlist ↦ hsame ?_)
      exact (String.append_right_inj listKeyStart).1 (hlist.trans hkey)
  | stats => exact h.of_spares (spares_stats e ttl b)
  | served key' list' => exact ⟨h.working, h.holds⟩
  | outage cause => exact ⟨h.working, h.holds⟩
  | faults faults => exact ⟨hharmless, h.holds⟩
  | passed span => exact ⟨h.working, h.holds.mono (Nat.le_add_right _ _)⟩

/-- The entry is served as long as no lookup for its key comes too late. -/
theorem Serves.after (h : Serves e b) (hkey : e.key = listKey key)
    (hdecode : TextCache.decodeList e.text = .ok list) {between : List Happening}
    (hharmless : ∀ happening ∈ between, happening.Harmless)
    (hearly : ∀ earlier later, between = earlier ++ .lookup key :: later →
      clock (Cache.after ttl b earlier) < e.deadline) : Serves e (Cache.after ttl b between) := by
  refine History.run_keeps_along h fun earlier happening later hsplit hserves ↦ ?_
  have hmem : happening ∈ between := hsplit ▸ List.mem_append_right earlier List.mem_cons_self
  refine hserves.step hkey hdecode (hharmless happening hmem) ?_
  rintro rfl
  exact hearly earlier later hsplit

end

/-- **A list that is kept answers for its time to live, and no longer.** The cache works all the
time; otherwise anything may happen after a lookup for the key that missed and was told the list.
Before the time to live is over a lookup for the key gives the list and asks nobody; the first one
after it asks master data, once. -/
theorem lookup_retained (ttl : Nat) (key : String) (b : Branch Supply) (list : List Contribution)
    (between : List Happening) (hworking : Working b.cache.faults)
    (hmissed : Missed (Branch.texts.getList (listKey key) b).1)
    (hlist : (lookup ttl key b).1 = .ok list) (hpayable : ∀ c ∈ list, c.amount.Payable)
    (hharmless : ∀ happening ∈ between, happening.Harmless) :
    let kept := (lookup ttl key b).2
    let now := after ttl kept between
    (clock now < clock b + ttl →
      (lookup ttl key now).1 = .ok list ∧ asks (lookup ttl key now).2 = asks now) ∧
    (clock b + ttl ≤ clock now →
      (∀ earlier later, between = earlier ++ .lookup key :: later →
        clock (after ttl kept earlier) < clock b + ttl) →
      asks (lookup ttl key now).2 = asks now + 1) := by
  intro kept now
  have hkept : Serves ⟨listKey key, TextCache.encodeList list, clock b + ttl⟩ kept :=
    serves_of_missed hworking hmissed hlist
  have hdecode := TextCache.decodeList_encodeList_of_payable hpayable
  refine ⟨fun hlive ↦ ?_, fun hexpired hearly ↦ ?_⟩
  -- the clock does not go back, so every lookup before now was in time as well
  · have hearly : ∀ earlier later, between = earlier ++ .lookup key :: later →
        clock (after ttl kept earlier) < clock b + ttl := by
      intro earlier later heq
      have hle := clock_le_after ttl (after ttl kept earlier) (.lookup key :: later)
      have hnow : after ttl (after ttl kept earlier) (.lookup key :: later) = now := by
        show _ = after ttl kept between
        rw [heq, after, after, after, History.run_append]
      exact Nat.lt_of_le_of_lt (hnow ▸ hle) hlive
    have hnow : Serves _ now := hkept.after rfl hdecode hharmless hearly
    rw [hnow.lookup_of_lt ttl rfl hlive hdecode]
    exact ⟨rfl, rfl⟩
  · have hnow : Serves _ now := hkept.after rfl hdecode hharmless hearly
    exact hnow.asks_lookup_of_le ttl rfl hexpired

/-- A branch whose master data has one contribution for one employee. -/
def branchTold (c : Contribution) : Branch Supply where
  now := .startOf .epoch
  supply := { contributions := [(c.rssbNumber, [c])] }

/-- A minute's list: a millisecond before the minute is over it is still given, although master data
serves another one by then, and when it is over master data is asked. -/
theorem lookup_retained_for_a_minute :
    let c : Contribution :=
      { id := "c", period := ⟨2025, 1, by decide, by decide, by decide⟩, rssbNumber := "1",
        matricule := "2", amount := Amount.largest, createdAt := .startOf .epoch,
        updatedAt := .startOf .epoch }
    let b := branchTold c
    let kept := (lookup 60000 "1" b).2
    let meanwhile (span : Nat) : List Happening :=
      [.served "1" [], .lookup "2", .passed span]
    (lookup 60000 "1" b).1 = .ok [c] ∧
    (lookup 60000 "1" (after 60000 kept (meanwhile 59999))).1 = .ok [c] ∧
    asks (lookup 60000 "1" (after 60000 kept (meanwhile 60000))).2 =
      asks (after 60000 kept (meanwhile 60000)) + 1 := by
  intro c b kept meanwhile
  have hmissed : Missed (Branch.texts.getList (listKey "1") b).1 := .inl rfl
  have hlist : (lookup 60000 "1" b).1 = .ok [c] := by decide +kernel
  have hpayable : ∀ c' ∈ [c], c'.amount.Payable := by decide
  have hharmless (span : Nat) : ∀ happening ∈ meanwhile span, happening.Harmless := by
    simp [meanwhile, Happening.Harmless]
  have hlive := (lookup_retained 60000 "1" b [c] (meanwhile 59999) ⟨rfl, rfl⟩ hmissed hlist hpayable
    (hharmless 59999)).1 (by decide +kernel)
  have hearly : ∀ earlier later, meanwhile 60000 = earlier ++ .lookup "1" :: later →
      clock (after 60000 kept earlier) < clock b + 60000 := by
    intro earlier later heq
    have hmem : Happening.lookup "1" ∈ meanwhile 60000 :=
      heq ▸ List.mem_append_right _ List.mem_cons_self
    simp [meanwhile] at hmem
  have hexpired := (lookup_retained 60000 "1" b [c] (meanwhile 60000) ⟨rfl, rfl⟩ hmissed hlist
    hpayable (hharmless 60000)).2 (by decide +kernel) hearly
  exact ⟨hlist, hlive.1, hexpired⟩

end ContributionRegistry.Cache
