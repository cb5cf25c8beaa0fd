import ContributionRegistry.Proofs.Cache.Degradation
import ContributionRegistry.Proofs.Cache.ExpiringMap
import Mathlib.Data.List.Nodup
import Mathlib.Data.Set.List

/-!
# What a lookup comes to

A lookup of contributions worked out from what was last written under each key of the cache, with no
word about the entries that happen to be left (`Upshot`). Outcome, counts and what is written depend
on what the cache stands for under the one key, on what master data answers, on the switches and on
the clock, and on nothing else (`upshot_congr`).

That this is what a lookup does is `lookup_eq`: whatever entries the branch holds, as long as they
reflect what was last written, the lookup comes out as its upshot says, and the entries it leaves
reflect what was last written then. Likewise for the figures (`stats_eq`, `Reflects.count_eq`): they
count the employees for whom a list was last written that is good.

Two things are built on this: the accounts, where upshots are added up along a run, and the
interchange of lookups for different employees, where the upshot of one is seen not to depend on the
other.
-/

namespace ContributionRegistry.Cache

open Deployment (Branch)

/-- What is last written under each key when nothing is written, or one more entry. -/
def filed (last : String → Option Entry) : Option Entry → String → Option Entry
  | none => last
  | some e => Function.update last e.key (some e)

/-! ### Upshots -/

/-- What a lookup comes to: its outcome, what it adds to the tally, and what it writes. Master data
is asked as often as misses are added. -/
structure Upshot where
  /-- What the lookup comes out with. -/
  outcome : Attempt ListError (List Contribution)
  /-- How many hits it counts. -/
  hits : Nat
  /-- How many misses it counts. -/
  misses : Nat
  /-- What it writes, if it writes anything. -/
  entry : Option Entry

/-- The branch that an upshot leaves behind, with the entries that are then in its cache. -/
def Upshot.leave (u : Upshot) (b : Branch Supply) (es : Entries) : Branch Supply :=
  withResidents { b with
    tally := { hits := b.tally.hits + u.hits, misses := b.tally.misses + u.misses }
    supply := { b.supply with
      contributionCalls := b.supply.contributionCalls + u.misses } } es

/-- What is found under a key of a cache where this was last written. -/
def found (b : Branch Supply) (last : String → Option Entry) (key : String) :
    Attempt StoreError (Option (List Contribution)) :=
  if b.cache.faults.get then Attempt.refuse SwitchedCache.fault
  else TextCache.decodeFound (((last key).filter (Entry.live (clock b))).map Entry.text)

/-- What a lookup comes to that has to ask master data. -/
def askingUpshot (ttl : Nat) (key : String) (b : Branch Supply) : Upshot :=
  match answer b key with
  | .error cause => ⟨.error (.refused (.source cause)), 0, 1, none⟩
  | .ok list =>
    if b.cache.faults.set then ⟨.ok list, 0, 1, none⟩
    else if clock b + ttl < clockBound then
      ⟨.ok list, 0, 1, some ⟨listKey key, TextCache.encodeList list, clock b + ttl⟩⟩
    else ⟨.error .abandoned, 0, 1, none⟩

/-- What a lookup comes to in a branch where this was last written. -/
def upshot (ttl : Nat) (key : String) (b : Branch Supply) (last : String → Option Entry) : Upshot :=
  match found b last (listKey key) with
  | .ok (some list) => ⟨.ok list, 1, 0, none⟩
  | .error .abandoned => ⟨.error .abandoned, 0, 0, none⟩
  | .ok none | .error (.refused _) => askingUpshot ttl key b

section

variable {ttl : Nat} {key : String} {b : Branch Supply} {last : String → Option Entry}

/-- What a lookup comes to that has missed. -/
theorem upshot_of_missed (h : Missed (found b last (listKey key))) :
    upshot ttl key b last = askingUpshot ttl key b := by
  unfold upshot
  obtain hnone | ⟨x, hrefused⟩ := h
  · rw [hnone]
  · rw [hrefused]

/-- What a lookup comes to that has found a list. -/
theorem upshot_of_found {list : List Contribution}
    (h : found b last (listKey key) = .ok (some list)) :
    upshot ttl key b last = ⟨.ok list, 1, 0, none⟩ := by
  rw [upshot, h]

/-- What a lookup comes to whose reading is abandoned. -/
theorem upshot_of_abandoned (h : found b last (listKey key) = .error .abandoned) :
    upshot ttl key b last = ⟨.error .abandoned, 0, 0, none⟩ := by
  rw [upshot, h]

/-- What is found elsewhere plays no part. -/
theorem upshot_congr {other : String → Option Entry}
    (h : other (listKey key) = last (listKey key)) :
    upshot ttl key b other = upshot ttl key b last := by
  unfold upshot found
  rw [h]

/-- Nor do the tally, the entries themselves and the number of questions. -/
theorem upshot_leave (u : Upshot) (es : Entries) :
    upshot ttl key (u.leave b es) last = upshot ttl key b last := rfl

/-- Whoever asks master data has missed once. -/
theorem askingUpshot_counts (ttl : Nat) (key : String) (b : Branch Supply) :
    (askingUpshot ttl key b).hits = 0 ∧ (askingUpshot ttl key b).misses = 1 := by
  unfold askingUpshot
  split
  · exact ⟨rfl, rfl⟩
  · split
    · exact ⟨rfl, rfl⟩
    · split <;> exact ⟨rfl, rfl⟩

/-- A miss writes the list of master data, unless there is none or it cannot be written. -/
theorem askingUpshot_entry (ttl : Nat) (key : String) (b : Branch Supply) :
    match (askingUpshot ttl key b).entry with
    | none => ¬ ((answer b key).isOk = true ∧ b.cache.faults.set = false ∧
        clock b + ttl < clockBound)
    | some e => ((answer b key).isOk = true ∧ b.cache.faults.set = false ∧
        clock b + ttl < clockBound) ∧ ∃ list,
          e = ⟨listKey key, TextCache.encodeList list, clock b + ttl⟩ := by
  unfold askingUpshot
  rcases answer b key with cause | list
  · exact fun h ↦ nomatch h.1
  rcases hset : b.cache.faults.set with _ | _
  · by_cases hbound : clock b + ttl < clockBound
    · simp only [Bool.false_eq_true, if_false, if_pos hbound]
      exact ⟨⟨rfl, trivial, hbound⟩, list, rfl⟩
    · simp only [Bool.false_eq_true, if_false, if_neg hbound]
      exact fun h ↦ absurd h.2.2 hbound
  · exact fun h ↦ Bool.noConfusion h.2.1

/-- What a lookup writes is filed under the key of its employee. -/
theorem key_of_upshot : ∀ e ∈ (upshot ttl key b last).entry, e.key = listKey key := by
  intro e he
  have hentry := askingUpshot_entry ttl key b
  unfold upshot at he
  split at he
  · cases he
  · cases he
  all_goals
    rw [Option.mem_def.1 he] at hentry
    obtain ⟨-, list, rfl⟩ := hentry
    rfl

/-! ### Entries that reflect what was last written -/

/-- A reading finds what was last written, and goes on reflecting it. -/
theorem getList_eq (h : (residents b).Reflects (clock b) last) (key : String) :
    ∃ es, Branch.texts.getList key b = (found b last key, withResidents b es) ∧
      es.Reflects (clock b) last := by
  by_cases hget : b.cache.faults.get = true
  · refine ⟨residents b, ?_, h⟩
    rw [getList_of_unreadable hget, found, if_pos hget]
    rfl
  · refine ⟨_, ?_, h.get key⟩
    rw [getList_of_readable (Bool.not_eq_true _ ▸ hget), found, if_neg hget, h.get_eq]

/-- Writing a list files it, if the clock reaches its deadline, and is abandoned otherwise. -/
theorem setList_eq (ttl : Nat) (key : String) (h : (residents b).Reflects (clock b) last)
    (hset : b.cache.faults.set = false) (list : List Contribution) :
    let e : Entry := ⟨listKey key, TextCache.encodeList list, clock b + ttl⟩
    ∃ es, Branch.texts.setList (listKey key) list ttl b =
        (if e.deadline < clockBound then .ok () else .error .abandoned, withResidents b es) ∧
      es.Reflects (clock b) (filed last (if e.deadline < clockBound then some e else none)) := by
  intro e
  have hliving := h.living (Nat.le_refl (clock b))
  rw [setList_of_writable hset, Entries.set]
  by_cases hbound : clock b + ttl < clockBound
  · have hdeadline : e.deadline < clockBound := hbound
    rw [if_pos hbound, if_pos hdeadline, if_pos hdeadline]
    exact ⟨_, rfl, hliving.replace e⟩
  · have hdeadline : ¬ e.deadline < clockBound := hbound
    rw [if_neg hbound, if_neg hdeadline, if_neg hdeadline]
    exact ⟨_, rfl, hliving⟩

/-- After a miss, a lookup is what it comes to when it asks. -/
theorem lookup_of_missed {found : Attempt StoreError (Option (List Contribution))} {es : Entries}
    (hread : Branch.texts.getList (listKey key) b = (found, withResidents b es))
    (hmissed : Missed found) (h : es.Reflects (clock b) last) :
    ∃ es', lookup ttl key b =
        ((askingUpshot ttl key b).outcome, (askingUpshot ttl key b).leave b es') ∧
      es'.Reflects (clock b) (filed last (askingUpshot ttl key b).entry) := by
  have hsame : answer (withResidents b es) key = answer b key := rfl
  unfold askingUpshot
  rcases hanswer : answer b key with cause | list
  · exact ⟨es, lookup_of_failed hread hmissed (hsame.trans hanswer), h⟩
  rcases hset : b.cache.faults.set with _ | _
  · have hasked : (residents (questioned (withResidents b es))).Reflects
        (clock (questioned (withResidents b es))) last := h
    obtain ⟨es', hwrite, hes'⟩ := setList_eq ttl key hasked hset list
    by_cases hbound : clock b + ttl < clockBound
    · have hdeadline : clock (questioned (withResidents b es)) + ttl < clockBound := hbound
      obtain ⟨hstate, houtcome⟩ := lookup_of_told hread hmissed (hsame.trans hanswer)
      simp only [if_pos hdeadline] at hwrite hes'
      rw [hwrite] at hstate houtcome
      simp only [hbound, Bool.false_eq_true, if_false, if_true]
      exact ⟨es', Prod.ext (houtcome nofun) hstate, hes'⟩
    · have hdeadline : ¬ clock (questioned (withResidents b es)) + ttl < clockBound := hbound
      simp only [if_neg hdeadline] at hwrite hes'
      simp only [hbound, Bool.false_eq_true, if_false]
      exact ⟨es', lookup_of_unwritten hread hmissed (hsame.trans hanswer) hwrite, hes'⟩
  · exact ⟨es, lookup_of_unwritable hread hmissed (hsame.trans hanswer) hset, h⟩

/-- **A lookup comes out as its upshot says**, and leaves entries that reflect what was last written
then. -/
theorem lookup_eq (ttl : Nat) (key : String) (h : (residents b).Reflects (clock b) last) :
    ∃ es, lookup ttl key b =
        ((upshot ttl key b last).outcome, (upshot ttl key b last).leave b es) ∧
      es.Reflects (clock b) (filed last (upshot ttl key b last).entry) := by
  obtain ⟨es, hread, hes⟩ := getList_eq h (listKey key)
  rcases hfound : found b last (listKey key) with (x | _) | _ | list
  · have hmissed : Missed (found b last (listKey key)) := .inr ⟨x, hfound⟩
    rw [upshot_of_missed hmissed]
    exact lookup_of_missed hread hmissed hes
  · rw [hfound] at hread
    have hstep : (Lookup.reading key).step (Branch.lists Supply.masterData ttl) b =
        (.settled (.error .abandoned), withResidents b es) := by
      have hread' : (Branch.lists Supply.masterData ttl).cache.getList (listKey key) b = _ := hread
      simp only [Lookup.step, hread']
    rw [upshot_of_abandoned hfound]
    exact ⟨es, fetch_eq_ending hstep, hes⟩
  · have hmissed : Missed (found b last (listKey key)) := .inl hfound
    rw [upshot_of_missed hmissed]
    exact lookup_of_missed hread hmissed hes
  · rw [hfound] at hread
    have hstep : (Lookup.reading key).step (Branch.lists Supply.masterData ttl) b =
        (.settled (.ok list), (Branch.lists Supply.masterData ttl).hit (withResidents b es)) := by
      have hread' : (Branch.lists Supply.masterData ttl).cache.getList (listKey key) b = _ := hread
      simp only [Lookup.step, hread']
    rw [upshot_of_found hfound]
    exact ⟨es, fetch_eq_ending hstep, hes⟩

/-! ### The figures -/

/-- **A count counts the employees whose list was last written and is good.** -/
theorem Entries.Reflects.count_eq {es : Entries} {now : Nat} (h : es.Reflects now last) :
    ∃ keys : List String, keys.Nodup ∧ (es.count now (listKeyStart ++ "*")).1 = keys.length ∧
      ∀ key, key ∈ keys ↔ ∃ e, last (listKey key) = some e ∧ now < e.deadline := by
  have hinjective : Function.Injective listKey := fun _ _ ↦ (String.append_right_inj listKeyStart).1
  have hrange : ∀ k ∈ (es.liveKeys now).filter fun k ↦
      Entries.matchesPattern (listKeyStart ++ "*").toList k.toList, k ∈ Set.range listKey := by
    intro k hk
    obtain ⟨rest, hrest⟩ := (Entries.matchesPattern_start_iff _ _).1 (List.mem_filter.1 hk).2
    exact ⟨rest, hrest.symm⟩
  obtain ⟨keys, hkeys⟩ := (Set.range_list_map listKey).ge hrange
  refine ⟨keys, ?_, ?_, fun key ↦ ?_⟩
  · have hnodup : (keys.map listKey).Nodup := hkeys ▸ h.nodup_liveKeys.filter _
    exact hnodup.of_map listKey
  · rw [Entries.count_eq_length, ← hkeys, List.length_map]
  · have hmatches :
        Entries.matchesPattern (listKeyStart ++ "*").toList (listKey key).toList = true :=
      (Entries.matchesPattern_start_iff _ _).2 ⟨key, rfl⟩
    rw [← h.mem_liveKeys_iff, ← List.mem_map_of_injective hinjective, hkeys, List.mem_filter]
    exact and_iff_left hmatches

/-- The figures are the tally and a count, unless counting fails. -/
theorem stats_eq (ttl : Nat) (h : (residents b).Reflects (clock b) last) :
    ∃ es, stats (Branch.lists Supply.masterData ttl) b =
        (if b.cache.faults.count then Attempt.refuse (.store SwitchedCache.fault)
          else .ok ⟨b.tally.hits, b.tally.misses,
            ((residents b).count (clock b) (listKeyStart ++ "*")).1⟩, withResidents b es) ∧
      es.Reflects (clock b) last := by
  have hcount := count_eq (listKeyStart ++ "*") b
  unfold stats
  rw [show (Branch.lists Supply.masterData ttl).cache.count = Branch.texts.count from rfl, hcount]
  by_cases hfault : b.cache.faults.count = true
  · simp only [if_pos hfault]
    exact ⟨residents b, rfl, h⟩
  · simp only [if_neg hfault]
    exact ⟨_, rfl, h.living (Nat.le_refl _)⟩

/-- The figures leave what the cache stands for. -/
theorem reflects_stats (ttl : Nat) (h : (residents b).Reflects (clock b) last) :
    (residents (stats (Branch.lists Supply.masterData ttl) b).2).Reflects
      (clock (stats (Branch.lists Supply.masterData ttl) b).2) last := by
  obtain ⟨es, hstats, hes⟩ := stats_eq ttl h
  rw [hstats]
  exact hes

end

end ContributionRegistry.Cache
