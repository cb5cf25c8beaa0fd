import ContributionRegistry.Proofs.Cache.Upshots

/-!
# The accounts of the cache

A branch starts with an empty cache and a tally of nothing. After whatever has happened since, the
accounts balance (`accounts_balance`):

* hits and misses together are the lookups there have been;
* misses are the questions to master data;
* hits are the lookups that gave a list without a question;
* the figures tell for how many employees a list was last written less than the time to live ago.

The lookups are those of the run, each with the branch as it met it (`visits`), so what is counted
is what somebody sees who watches the branch. What one lookup adds to either side of the accounts is
its upshot; that every lookup is a hit or a miss needs that no text in the cache is abandoned in
decoding, and all of them were written for lists (`Books.file`).

The books are kept along the run: `Books` says that they agree with the lookups seen so far, one
event keeps them so (`Books.step`), and so does the whole past (`books_after`).
-/

namespace ContributionRegistry.Cache

open Deployment (Branch)

/-! ### The lookups of a run -/

/-- A lookup of a run: for whom, and the branch as it meets it. -/
structure Visit where
  /-- The employee that the lookup was for. -/
  key : String
  /-- The branch before the lookup. -/
  branch : Branch Supply

namespace Visit

/-- The lookup asks master data. -/
def asked (ttl : Nat) (v : Visit) : Bool := asks (lookup ttl v.key v.branch).2 != asks v.branch

/-- The lookup gives a list and does not ask master data. -/
def spared (ttl : Nat) (v : Visit) : Bool :=
  (lookup ttl v.key v.branch).1.isOk && !v.asked ttl

/-- The lookup writes a list to the cache: master data is asked and tells one, the cache can be
written, and the clock reaches the deadline. -/
def writes (ttl : Nat) (v : Visit) : Bool :=
  v.asked ttl && (answer v.branch v.key).isOk && !v.branch.cache.faults.set &&
    clock v.branch + ttl < clockBound

end Visit

/-- The lookup that something is, if it is one. -/
def Happening.visit? (b : Branch Supply) : Happening → Option Visit
  | .lookup key => some ⟨key, b⟩
  | _ => none

/-- The lookups in the course of what happens. -/
def visits (ttl : Nat) : Branch Supply → List Happening → List Visit
  | _, [] => []
  | b, happening :: rest => (happening.visit? b).toList ++ visits ttl (step ttl b happening) rest

/-- When a list was last written for an employee. -/
def lastWriting (ttl : Nat) (seen : List Visit) (key : String) : Option Nat :=
  (seen.reverse.find? fun v ↦ v.key == key && v.writes ttl).map fun v ↦ clock v.branch

/-- The branch with nothing in its cache and nothing counted. -/
def opened (b : Branch Supply) : Branch Supply := { emptied b with tally := {} }

/-- The last event may be one more lookup. -/
theorem visits_concat (ttl : Nat) (b : Branch Supply) (past : List Happening) (next : Happening) :
    visits ttl b (past ++ [next]) =
      visits ttl b past ++ (next.visit? (after ttl b past)).toList := by
  induction past generalizing b with
  | nil => exact List.append_nil _
  | cons happening past ih =>
    rw [List.cons_append, visits, ih, ← List.append_assoc]
    rfl

/-- The last lookup wrote last, if it was for the key and wrote. -/
theorem lastWriting_concat (ttl : Nat) (seen : List Visit) (v : Visit) (key : String) :
    lastWriting ttl (seen ++ [v]) key =
      if v.key = key ∧ v.writes ttl = true then some (clock v.branch)
      else lastWriting ttl seen key := by
  rw [lastWriting, List.reverse_append, List.reverse_singleton, List.singleton_append,
    List.find?_cons]
  by_cases hwrites : v.key = key ∧ v.writes ttl = true
  · rw [if_pos hwrites, hwrites.1, hwrites.2, beq_self_eq_true]
    rfl
  · have hother : (v.key == key && v.writes ttl) = false := by simpa using hwrites
    rw [if_neg hwrites, hother]
    rfl

/-! ### What one lookup adds -/

/-- Every text was written for a list, under the key of an employee. -/
def Listed (last : String → Option Entry) : Prop :=
  ∀ key e, last key = some e →
    (∃ employee, key = listKey employee) ∧ ∃ list, e.text = TextCache.encodeList list

section

variable {ttl : Nat} {key : String} {b : Branch Supply} {last : String → Option Entry}

/-- No reading of written lists is abandoned. -/
theorem Listed.found_ne_abandoned (h : Listed last) (b : Branch Supply) (key : String) :
    found b last key ≠ .error .abandoned := by
  unfold found
  split
  · nofun
  · rcases hlast : (last key).filter (Entry.live (clock b)) with _ | e
    · nofun
    · obtain ⟨hkept, -⟩ := Option.filter_eq_some_iff.1 hlast
      obtain ⟨-, list, htext⟩ := h key e hkept
      intro hfound
      have hdecode : TextCache.decodeList e.text = .error .abandoned :=
        Attempt.eq_error_of_map hfound
      exact TextCache.decodeList_encodeList_ne_abandoned list (htext ▸ hdecode)

/-- A lookup is a hit, or a miss. -/
theorem Listed.upshot_cases (h : Listed last) (ttl : Nat) (b : Branch Supply) (key : String) :
    (∃ list, upshot ttl key b last = ⟨.ok list, 1, 0, none⟩) ∨
      upshot ttl key b last = askingUpshot ttl key b := by
  rcases hfound : found b last (listKey key) with (x | _) | _ | list
  · exact .inr (upshot_of_missed (.inr ⟨x, hfound⟩))
  · exact absurd hfound (h.found_ne_abandoned b (listKey key))
  · exact .inr (upshot_of_missed (.inl hfound))
  · exact .inl ⟨list, upshot_of_found hfound⟩

end

/-! ### The books -/

/-- What was last written under each key, as far as the lookups tell. -/
structure File (ttl : Nat) (seen : List Visit) (last : String → Option Entry) : Prop where
  /-- What was last written are lists. -/
  listed : Listed last
  /-- The last writing under a key was by the last lookup that wrote there. -/
  dated : ∀ key, (last (listKey key)).map Entry.deadline =
    (lastWriting ttl seen key).map fun time ↦ time + ttl

/-- The books of a branch about the lookups so far. -/
structure Books (ttl : Nat) (start : Branch Supply) (seen : List Visit) (now : Branch Supply) :
    Prop where
  /-- Hits and misses are the lookups. -/
  lookups : now.tally.hits + now.tally.misses = seen.length
  /-- Misses are the questions. -/
  questions : asks now = asks start + now.tally.misses
  /-- Hits are the lookups that spared a question. -/
  spared : now.tally.hits = (seen.filter (Visit.spared ttl)).length
  /-- The cache has what the lookups have written. -/
  file : ∃ last, (residents now).Reflects (clock now) last ∧ File ttl seen last

section

variable {ttl : Nat} {start now : Branch Supply} {seen : List Visit} {last : String → Option Entry}

/-- A lookup that writes nothing leaves the file as it is. -/
theorem File.unwritten (h : File ttl seen last) {v : Visit} (hwrites : v.writes ttl = false) :
    File ttl (seen ++ [v]) last where
  listed := h.listed
  dated key := by
    have hnot : ¬ (v.key = key ∧ v.writes ttl = true) := by
      rw [hwrites]
      exact fun hv ↦ Bool.noConfusion hv.2
    rw [lastWriting_concat, if_neg hnot]
    exact h.dated key

/-- A lookup that writes a list files it under the key of its employee, and nowhere else. -/
theorem File.written (h : File ttl seen last) {v : Visit} (hwrites : v.writes ttl = true)
    (list : List Contribution) :
    File ttl (seen ++ [v]) (filed last
      (some ⟨listKey v.key, TextCache.encodeList list, clock v.branch + ttl⟩)) where
  listed key e he := by
    rw [filed] at he
    by_cases hkey : key = listKey v.key
    · rw [hkey, Function.update_self] at he
      rw [← Option.some.inj he]
      exact ⟨⟨v.key, hkey⟩, list, rfl⟩
    · rw [Function.update_of_ne hkey] at he
      exact h.listed key e he
  dated key := by
    rw [filed, lastWriting_concat]
    by_cases hkey : v.key = key
    · rw [if_pos ⟨hkey, hwrites⟩, hkey, Function.update_self]
      rfl
    · have hne : listKey key ≠ listKey v.key :=
        fun hlist ↦ hkey ((String.append_right_inj listKeyStart).1 hlist).symm
      rw [if_neg fun hv ↦ hkey hv.1, Function.update_of_ne hne]
      exact h.dated key

/-- Master data is asked if a miss is added. -/
theorem asked_of_lookup {key : String} {u : Upshot} {es : Entries}
    (h : lookup ttl key now = (u.outcome, u.leave now es)) :
    Visit.asked ttl ⟨key, now⟩ = (u.misses != 0) := by
  have hasks : asks (lookup ttl key now).2 = asks now + u.misses := by
    rw [h]
    rfl
  rw [Visit.asked, hasks, Bool.eq_iff_iff, bne_iff_ne, bne_iff_ne]
  exact not_congr Nat.add_eq_left

/-- A hit keeps the books. -/
theorem Books.hit (h : Books ttl start seen now) (hfile : File ttl seen last) {key : String}
    {list : List Contribution} {es : Entries} (hes : es.Reflects (clock now) last)
    (hlookup : lookup ttl key now =
      (.ok list, (Upshot.mk (.ok list) 1 0 none).leave now es)) :
    Books ttl start (seen ++ [⟨key, now⟩]) (lookup ttl key now).2 := by
  have hasked := asked_of_lookup (u := ⟨.ok list, 1, 0, none⟩) hlookup
  have hspared : Visit.spared ttl ⟨key, now⟩ = true := by
    rw [Visit.spared, hasked, hlookup]
    rfl
  have hwrites : Visit.writes ttl ⟨key, now⟩ = false := by
    rw [Visit.writes, hasked]
    rfl
  rw [hlookup]
  refine ⟨?_, h.questions, ?_, last, hes, hfile.unwritten hwrites⟩
  · show now.tally.hits + 1 + now.tally.misses = _
    rw [Nat.add_right_comm, h.lookups, List.length_append, List.length_singleton]
  · show now.tally.hits + 1 = _
    rw [h.spared, List.filter_append, List.filter_singleton, hspared, List.length_append]
    rfl

/-- A miss keeps the books. -/
theorem Books.miss (h : Books ttl start seen now) (hfile : File ttl seen last) {key : String}
    {es : Entries} (hes : es.Reflects (clock now) (filed last (askingUpshot ttl key now).entry))
    (hlookup : lookup ttl key now =
      ((askingUpshot ttl key now).outcome, (askingUpshot ttl key now).leave now es)) :
    Books ttl start (seen ++ [⟨key, now⟩]) (lookup ttl key now).2 := by
  obtain ⟨hhits, hmisses⟩ := askingUpshot_counts ttl key now
  have hentry := askingUpshot_entry ttl key now
  have hasked : Visit.asked ttl ⟨key, now⟩ = true := by
    rw [asked_of_lookup hlookup, hmisses]
    rfl
  have hspared : Visit.spared ttl ⟨key, now⟩ = false := by
    rw [Visit.spared, hasked]
    exact Bool.and_false _
  have hhits' : ((askingUpshot ttl key now).leave now es).tally.hits = now.tally.hits :=
    congrArg (now.tally.hits + ·) hhits
  have hmisses' : ((askingUpshot ttl key now).leave now es).tally.misses = now.tally.misses + 1 :=
    congrArg (now.tally.misses + ·) hmisses
  have hasks : asks ((askingUpshot ttl key now).leave now es) = asks now + 1 :=
    congrArg (asks now + ·) hmisses
  rw [hlookup]
  refine ⟨?_, ?_, ?_, _, hes, ?_⟩
  · rw [hhits', hmisses', ← Nat.add_assoc, h.lookups, List.length_append, List.length_singleton]
  · rw [hasks, hmisses', h.questions, Nat.add_assoc]
  · rw [hhits', h.spared, List.filter_append, List.filter_singleton, hspared, List.length_append]
    rfl
  -- what the miss writes is dated now
  · rcases hwritten : (askingUpshot ttl key now).entry with _ | e
    · rw [hwritten] at hentry
      refine hfile.unwritten ?_
      simpa [Visit.writes, hasked] using hentry
    · rw [hwritten] at hentry
      obtain ⟨hwrites, list, rfl⟩ := hentry
      refine hfile.written (v := ⟨key, now⟩) ?_ list
      simpa [Visit.writes, hasked, and_assoc] using hwrites

/-- **A lookup keeps the books.** -/
theorem Books.lookup (h : Books ttl start seen now) (key : String) :
    Books ttl start (seen ++ [⟨key, now⟩]) (lookup ttl key now).2 := by
  obtain ⟨last, hreflects, hfile⟩ := h.file
  obtain ⟨es, hlookup, hes⟩ := lookup_eq ttl key hreflects
  rcases hfile.listed.upshot_cases ttl now key with ⟨list, hupshot⟩ | hupshot
  · rw [hupshot] at hlookup hes
    exact h.hit hfile hes hlookup
  · rw [hupshot] at hlookup hes
    exact h.miss hfile hes hlookup

/-- What is no lookup, counts nothing and writes nothing makes no difference to the books. -/
theorem Books.besides (h : Books ttl start seen now) {happening : Happening}
    (hvisit : happening.visit? now = none) (htally : (step ttl now happening).tally = now.tally)
    (hasks : asks (step ttl now happening) = asks now)
    (hreflects : ∀ {last}, (residents now).Reflects (clock now) last →
      (residents (step ttl now happening)).Reflects (clock (step ttl now happening)) last) :
    Books ttl start (seen ++ (happening.visit? now).toList) (step ttl now happening) := by
  rw [hvisit, Option.toList_none, List.append_nil]
  obtain ⟨last, hnow, hfile⟩ := h.file
  exact ⟨htally ▸ h.lookups, by rw [hasks, htally, h.questions], htally ▸ h.spared, last,
    hreflects hnow, hfile⟩

/-- **Whatever happens keeps the books.** -/
theorem Books.step (h : Books ttl start seen now) (happening : Happening) :
    Books ttl start (seen ++ (happening.visit? now).toList) (step ttl now happening) := by
  match happening with
  | .lookup key => exact h.lookup key
  | .stats =>
    obtain ⟨es, hstate⟩ : Around now (Cache.step ttl now .stats) := (stats_effect ttl now).1
    refine h.besides rfl ?_ ?_ (reflects_stats ttl)
    · rw [hstate]
      rfl
    · rw [hstate]
      rfl
  | .served key list => exact h.besides rfl rfl rfl id
  | .outage cause => exact h.besides rfl rfl rfl id
  | .faults faults => exact h.besides rfl rfl rfl id
  | .passed span => exact h.besides rfl rfl rfl fun hlast ↦ hlast.mono (Nat.le_add_right _ _)

end

theorem books_opened (ttl : Nat) (b : Branch Supply) : Books ttl (opened b) [] (opened b) where
  lookups := rfl
  questions := rfl
  spared := rfl
  file := ⟨fun _ ↦ none, Entries.reflects_nil _, nofun, fun _ ↦ rfl⟩

/-- The books agree with the lookups at all times. -/
theorem books_after (ttl : Nat) (b : Branch Supply) (past : List Happening) :
    Books ttl (opened b) (visits ttl (opened b) past) (after ttl (opened b) past) := by
  refine History.run_induction (step ttl)
    (P := fun past now ↦ Books ttl (opened b) (visits ttl (opened b) past) now)
    (books_opened ttl b) (fun past next h ↦ ?_) past
  rw [visits_concat]
  exact h.step next

/-- **The accounts balance**, whatever has happened since nothing was cached or counted. Every
lookup is a hit or a miss, every miss a question to master data, every hit a lookup that gave a list
without one; and the figures, if they can be had, tell for how many employees a list was last
written less than the time to live ago. -/
theorem accounts_balance (ttl : Nat) (b : Branch Supply) (past : List Happening) :
    let now := after ttl (opened b) past
    let seen := visits ttl (opened b) past
    now.tally.hits + now.tally.misses = seen.length ∧
    asks now = asks (opened b) + now.tally.misses ∧
    now.tally.hits = (seen.filter (Visit.spared ttl)).length ∧
    match (stats (Branch.lists Supply.masterData ttl) now).1 with
    | .ok figures => figures.hits = now.tally.hits ∧ figures.misses = now.tally.misses ∧
      ∃ keys : List String, keys.Nodup ∧ figures.keys = keys.length ∧
        ∀ key, key ∈ keys ↔
          ∃ time, lastWriting ttl seen key = some time ∧ clock now < time + ttl
    | .error failure =>
      now.cache.faults.count = true ∧ failure = .refused (.store SwitchedCache.fault) := by
  intro now seen
  have hbooks : Books ttl (opened b) seen now := books_after ttl b past
  refine ⟨hbooks.lookups, hbooks.questions, hbooks.spared, ?_⟩
  obtain ⟨last, hreflects, hfile⟩ := hbooks.file
  obtain ⟨es, hstats, -⟩ := stats_eq ttl hreflects
  rw [hstats]
  rcases hcount : now.cache.faults.count with _ | _
  · obtain ⟨keys, hnodup, hlength, hmem⟩ := hreflects.count_eq
    refine ⟨rfl, rfl, keys, hnodup, hlength, fun key ↦ ?_⟩
    -- an entry has its deadline from the last writing under its key, and both sides ask whether
    -- that has passed
    rw [hmem]
    have hdated := hfile.dated key
    constructor
    · rintro ⟨e, hlast, hlive⟩
      rw [hlast] at hdated
      obtain ⟨time, htime, hdeadline⟩ := Option.map_eq_some_iff.1 hdated.symm
      exact ⟨time, htime, hdeadline ▸ hlive⟩
    · rintro ⟨time, htime, hlive⟩
      rw [htime] at hdated
      obtain ⟨e, hlast, hdeadline⟩ := Option.map_eq_some_iff.1 hdated
      exact ⟨e, hlast, hdeadline ▸ hlive⟩
  · exact ⟨rfl, rfl⟩

end ContributionRegistry.Cache
