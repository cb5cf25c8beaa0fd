import ContributionRegistry.Proofs.Cache.Retention

/-!
# Many lookups of lists at once

Any number of lookups of contribution lists at one branch, for any keys. A lookup waits after each
of its calls, and the next turn may be that of any other lookup; between turns master data may come
to serve other lists, and time may pass. The cache works.

Two things hold after any turns: what is known of each lookup where it waits (`Crowd.InOrder`), and
that every list in the cache, and every list that a lookup has come out with, was written by one of
the lookups (`Crowd.Rooted`).

The first is about the present and is kept by every turn (`Crowd.InOrder.step`). What one call of
one lookup can do is said once for each place where a lookup may wait (`reading_effect`,
`fetching_effect`, `writing_effect`). The second is about the past, and is carried along a run from
its front end: a turn adds at most one writing (`Crowd.entry_of_step`).
-/

namespace ContributionRegistry

/-- All lists that master data has to serve are of payable contributions. -/
def Supply.Payable (s : Supply) : Prop :=
  ∀ served ∈ s.contributions, ∀ c ∈ served.2, c.amount.Payable

theorem Supply.Payable.of_answer {s : Supply} (h : s.Payable) {key : String}
    {list : List Contribution} (hanswer : s.contributionsAnswer key = .ok list) :
    ∀ c ∈ list, c.amount.Payable := by
  unfold Supply.contributionsAnswer at hanswer
  split at hanswer
  · cases hanswer
  · cases hlookup : s.contributions.lookup key with
    | none =>
      rw [hlookup] at hanswer
      cases hanswer
      exact fun c hc ↦ absurd hc List.not_mem_nil
    | some served =>
      rw [hlookup] at hanswer
      cases hanswer
      obtain ⟨before, rest, hsplit, -⟩ := List.lookup_eq_some_iff.1 hlookup
      have hmem : (key, served) ∈ s.contributions :=
        hsplit ▸ List.mem_append_right before List.mem_cons_self
      exact h _ hmem

namespace Cache

open Deployment (Branch)

/-- Lookups at a branch. -/
structure Crowd where
  /-- The branch that they are looking up lists at. -/
  branch : Branch Supply
  /-- The lookups in the order of their arrival, each with the key that it was called with. -/
  visits : List (String × Lookup) := []

/-- What happens next. -/
inductive Turn where
  /-- Somebody calls for a lookup. -/
  | arrival (key : String)
  /-- A lookup makes its next call. -/
  | call (visit : Nat)
  /-- Master data has other lists to serve from now on, or cannot be reached. -/
  | supplied (supply : Supply)
  /-- Time passes. -/
  | passed (span : Nat)

/-- Master data has only lists of payable contributions to serve. -/
def Turn.Payable : Turn → Prop
  | .supplied supply => supply.Payable
  | _ => True

namespace Crowd

/-- The time on the clock of the cache. -/
def time (c : Crowd) : Nat := clock c.branch

/-- A branch with nobody in it and an empty cache. -/
def opening (now : Calendar.Timestamp) (time : Nat) (supply : Supply) : Crowd where
  branch := { now, cache := { memory := ⟨time, []⟩ }, supply }

/-- One turn. The turn of a lookup that has not come passes. -/
def step (ttl : Nat) (c : Crowd) : Turn → Crowd
  | .arrival key => { c with visits := c.visits ++ [(key, .reading key)] }
  | .call visit =>
    match c.visits[visit]? with
    | none => c
    | some (key, lookup) =>
      let (lookup', branch) := lookup.step (Branch.lists Supply.masterData ttl) c.branch
      { branch, visits := c.visits.set visit (key, lookup') }
  | .supplied supply => { c with branch := { c.branch with supply } }
  | .passed span =>
    { c with branch := { c.branch with
        cache := { c.branch.cache with memory := c.branch.cache.memory.advance span } } }

/-- Turn after turn. -/
def run (ttl : Nat) (c : Crowd) (turns : List Turn) : Crowd := History.run (step ttl) c turns

end Crowd

/-! ### One call of one lookup -/

deriving instance DecidableEq for Lookup

namespace Lookup

/-- Whether the lookup has missed and has not come out yet. -/
def Pending : Lookup → Prop
  | .fetching _ | .writing _ _ => True
  | .reading _ | .settled _ => False

/-- What is known of a lookup for the key where it waits. -/
def Sound (key : String) : Lookup → Prop
  | .reading k | .fetching k => k = key
  | .writing k list => k = key ∧ ∀ c ∈ list, c.amount.Payable
  | .settled _ => True

end Lookup

section

variable {ttl : Nat} {b b' : Branch Supply} {key : String} {lookup : Lookup}

/-- The call of a lookup that reads. -/
theorem reading_effect
    (h : (Lookup.reading key).step (Branch.lists Supply.masterData ttl) b = (lookup, b')) :
    (∃ es tally, b' = { withResidents b es with tally } ∧ ∀ e ∈ es, e ∈ residents b) ∧
      (lookup = .fetching key ∨ lookup = .settled (.error .abandoned) ∨
        ∃ list, lookup = .settled (.ok list) ∧
          ∃ e ∈ residents b, e.key = listKey key ∧ TextCache.decodeList e.text = .ok list) := by
  rcases hread : Branch.texts.getList (listKey key) b with ⟨found, b₁⟩
  obtain ⟨⟨es, hes⟩, hmem, hfound⟩ := getList_effect hread
  have hread' : (Branch.lists Supply.masterData ttl).cache.getList (listKey key) b = (found, b₁) :=
    hread
  subst hes
  simp only [Lookup.step, hread'] at h
  rcases found with (x | _) | _ | list
  · cases h
    exact ⟨⟨es, _, rfl, hmem⟩, .inl rfl⟩
  · cases h
    exact ⟨⟨es, b.tally, rfl, hmem⟩, .inr (.inl rfl)⟩
  · cases h
    exact ⟨⟨es, _, rfl, hmem⟩, .inl rfl⟩
  · cases h
    refine ⟨⟨es, _, rfl, hmem⟩, .inr (.inr ⟨list, rfl, ?_⟩)⟩
    rcases hfound with hfound | hfound | ⟨e, he, hkey, -, hlist⟩
    · cases hfound
    · cases hfound
    · exact ⟨e, he, hkey, Attempt.eq_ok_of_map_some hlist.symm⟩

/-- The call of a lookup that asks master data. -/
theorem fetching_effect
    (h : (Lookup.fetching key).step (Branch.lists Supply.masterData ttl) b = (lookup, b')) :
    (∃ calls, b' = { b with supply := { b.supply with contributionCalls := calls } }) ∧
      ((∃ list, answer b key = .ok list ∧ lookup = .writing key list) ∨
        ∃ e, lookup = .settled (.error e)) := by
  have hask : (Branch.lists Supply.masterData ttl).source.contributions key b =
      (Attempt.ofExcept (answer b key),
        { b with supply := { b.supply with contributionCalls := asks b + 1 } }) := rfl
  simp only [Lookup.step, hask] at h
  cases hanswer : answer b key with
  | error e =>
    rw [hanswer] at h
    cases h
    exact ⟨⟨_, rfl⟩, .inr ⟨.refused e, rfl⟩⟩
  | ok list =>
    rw [hanswer] at h
    cases h
    exact ⟨⟨_, rfl⟩, .inl ⟨list, rfl, rfl⟩⟩

/-- The call of a lookup that writes, to a cache that works. -/
theorem writing_effect {list : List Contribution} (hworking : Working b.cache.faults)
    (h : (Lookup.writing key list).step (Branch.lists Supply.masterData ttl) b = (lookup, b')) :
    ∃ es, b' = withResidents b es ∧
      ((lookup = .settled (.ok list) ∧ (residents b).set (clock b) (listKey key)
          (TextCache.encodeList list) ttl = (some (), es)) ∨
       (lookup = .settled (.error .abandoned) ∧ (residents b).set (clock b) (listKey key)
          (TextCache.encodeList list) ttl = (none, es))) := by
  have hwrite := setList_of_writable hworking.2 (listKey key) list ttl
  have hwrite' : (Branch.lists Supply.masterData ttl).cache.setList (listKey key) list
      (Branch.lists Supply.masterData ttl).ttl b = Branch.texts.setList (listKey key) list ttl b :=
    rfl
  simp only [Lookup.step, hwrite', hwrite] at h
  rcases hset : (residents b).set (clock b) (listKey key) (TextCache.encodeList list) ttl with
    ⟨_ | _, es⟩
  · rw [hset] at h
    cases h
    exact ⟨es, rfl, .inr ⟨rfl, rfl⟩⟩
  · rw [hset] at h
    cases h
    exact ⟨es, rfl, .inl ⟨rfl, rfl⟩⟩

/-- What one call of a lookup leaves as it was, and what is known of the lookup afterwards. -/
structure Advanced (b b' : Branch Supply) (key : String) (lookup : Lookup) : Prop where
  /-- The switches stand as they did. -/
  faults : b'.cache.faults = b.cache.faults
  /-- No time passes in a call. -/
  clock : clock b' = clock b
  /-- Master data serves what it did. -/
  supply : b'.supply.contributions = b.supply.contributions
  /-- What is known where the lookup waits now is true. -/
  sound : lookup.Sound key

/-- One call of a lookup leaves the surroundings alone, and what is known stays true. -/
theorem Lookup.Sound.step (h : lookup.Sound key) (ttl : Nat) (hworking : Working b.cache.faults)
    (hpayable : b.supply.Payable) :
    Advanced b (lookup.step (Branch.lists Supply.masterData ttl) b).2 key
      (lookup.step (Branch.lists Supply.masterData ttl) b).1 := by
  rcases hstep : lookup.step (Branch.lists Supply.masterData ttl) b with ⟨lookup', b'⟩
  cases lookup with
  | reading k =>
    cases h
    obtain ⟨⟨es, tally, rfl, -⟩, hcame⟩ := reading_effect hstep
    refine ⟨rfl, rfl, rfl, ?_⟩
    rcases hcame with rfl | rfl | ⟨list, rfl, -⟩
    · rfl
    · trivial
    · trivial
  | fetching k =>
    cases h
    obtain ⟨⟨calls, rfl⟩, hcame⟩ := fetching_effect hstep
    refine ⟨rfl, rfl, rfl, ?_⟩
    rcases hcame with ⟨list, hanswer, rfl⟩ | ⟨e, rfl⟩
    · exact ⟨rfl, hpayable.of_answer hanswer⟩
    · trivial
  | writing k list =>
    obtain ⟨rfl, -⟩ := h
    obtain ⟨es, rfl, ⟨rfl, -⟩ | ⟨rfl, -⟩⟩ := writing_effect hworking hstep
    · exact ⟨rfl, rfl, rfl, trivial⟩
    · exact ⟨rfl, rfl, rfl, trivial⟩
  | settled outcome =>
    cases hstep
    exact ⟨rfl, rfl, rfl, trivial⟩

end

/-! ### All lookups, turn after turn -/

namespace Crowd

variable {ttl : Nat} {c : Crowd}

theorem step_call (ttl : Nat) {n : Nat} {v : String × Lookup} (hv : c.visits[n]? = some v) :
    c.step ttl (.call n) = {
      branch := (v.2.step (Branch.lists Supply.masterData ttl) c.branch).2
      visits := c.visits.set n
        (v.1, (v.2.step (Branch.lists Supply.masterData ttl) c.branch).1) } := by
  simp only [step, hv]

theorem step_call_none (ttl : Nat) {n : Nat} (hv : c.visits[n]? = none) :
    c.step ttl (.call n) = c := by
  simp only [step, hv]

/-- Where a lookup waits after a turn: where it did before, or at its start if it has just come, or
a call further if the turn was its own. -/
theorem visit_of_step {turn : Turn} {n : Nat} {v : String × Lookup}
    (hv : (c.step ttl turn).visits[n]? = some v) :
    c.visits[n]? = some v ∨
    (n = c.visits.length ∧ ∃ key, turn = .arrival key ∧ v = (key, .reading key)) ∨
    (turn = .call n ∧ ∃ lookup, c.visits[n]? = some (v.1, lookup) ∧
      v.2 = (lookup.step (Branch.lists Supply.masterData ttl) c.branch).1) := by
  cases turn with
  | arrival key =>
    -- the lookups before the new one, the new one, and nobody
    rcases Nat.lt_trichotomy n c.visits.length with hlt | rfl | hgt
    · exact .inl ((List.getElem?_append_left hlt).symm.trans hv)
    · have hnew : (key, Lookup.reading key) = v := by simpa [step] using hv
      exact .inr (.inl ⟨rfl, key, rfl, hnew.symm⟩)
    · have hnone : (c.visits ++ [(key, Lookup.reading key)])[n]? = none :=
        List.getElem?_eq_none (by rw [List.length_append]; exact hgt)
      cases hnone.symm.trans hv
  | call m =>
    cases hw : c.visits[m]? with
    | none =>
      rw [step_call_none ttl hw] at hv
      exact .inl hv
    | some w =>
      rw [step_call ttl hw] at hv
      by_cases hmn : m = n
      · subst hmn
        have hlt := (List.getElem?_eq_some_iff.1 hw).1
        rw [List.getElem?_set_self hlt] at hv
        cases hv
        exact .inr (.inr ⟨rfl, w.2, hw, rfl⟩)
      · rw [List.getElem?_set_ne hmn] at hv
        exact .inl hv
  | supplied supply => exact .inl hv
  | passed span => exact .inl hv

/-- A lookup that has come out has come out for good. -/
theorem settled_step {n : Nat} {key : String} {outcome : Attempt RemoteError (List Contribution)}
    (hv : c.visits[n]? = some (key, .settled outcome)) (turn : Turn) :
    (c.step ttl turn).visits[n]? = some (key, .settled outcome) := by
  have hlt := (List.getElem?_eq_some_iff.1 hv).1
  cases turn with
  | arrival k => exact (List.getElem?_append_left hlt).trans hv
  | call m =>
    cases hw : c.visits[m]? with
    | none => rwa [step_call_none ttl hw]
    | some w =>
      rw [step_call ttl hw]
      by_cases hmn : m = n
      · subst hmn
        cases hv.symm.trans hw
        exact List.getElem?_set_self hlt
      · exact (List.getElem?_set_ne hmn).trans hv
  | supplied supply => exact hv
  | passed span => exact hv

theorem length_le_step (turn : Turn) : c.visits.length ≤ (c.step ttl turn).visits.length := by
  cases turn with
  | arrival key => simp [step]
  | call n =>
    cases hv : c.visits[n]? with
    | none => exact Nat.le_of_eq (by rw [step_call_none ttl hv])
    | some v => simp [step_call ttl hv]
  | supplied supply => exact Nat.le_refl _
  | passed span => exact Nat.le_refl _

theorem length_le_run (c : Crowd) (turns : List Turn) :
    c.visits.length ≤ (c.run ttl turns).visits.length :=
  History.run_grows (R := fun c c' : Crowd ↦ c.visits.length ≤ c'.visits.length)
    (fun _ ↦ Nat.le_refl _) Nat.le_trans (fun _ ↦ length_le_step) turns

/-- The crowd is in order: the cache works, master data has only payable contributions to serve, and
what is known where a lookup waits is true. -/
structure InOrder (c : Crowd) : Prop where
  /-- Lists can be read from the cache and written to it. -/
  working : Working c.branch.cache.faults
  /-- Master data serves payable contributions only. -/
  payable : c.branch.supply.Payable
  /-- What is known of each lookup where it waits is true. -/
  sound : ∀ v ∈ c.visits, v.2.Sound v.1

theorem inOrder_opening (now : Calendar.Timestamp) (time : Nat) {supply : Supply}
    (h : supply.Payable) : (opening now time supply).InOrder :=
  ⟨⟨rfl, rfl⟩, h, fun _ hv ↦ absurd hv List.not_mem_nil⟩

/-- A turn leaves the crowd in order, and time does not go back. -/
theorem InOrder.step (h : c.InOrder) (ttl : Nat) {turn : Turn} (hturn : turn.Payable) :
    (c.step ttl turn).InOrder ∧ c.time ≤ (c.step ttl turn).time := by
  cases turn with
  | arrival key =>
    refine ⟨⟨h.working, h.payable, fun v hv ↦ ?_⟩, Nat.le_refl _⟩
    rcases List.mem_append.1 hv with hv | hv
    · exact h.sound v hv
    · rw [List.mem_singleton.1 hv]
      rfl
  | call n =>
    cases hv : c.visits[n]? with
    | none =>
      rw [step_call_none ttl hv]
      exact ⟨h, Nat.le_refl _⟩
    | some v =>
      have hcall := (h.sound v (List.mem_of_getElem? hv)).step ttl h.working h.payable
      rw [step_call ttl hv]
      refine ⟨⟨hcall.faults ▸ h.working, ?_, fun w hw ↦ ?_⟩, Nat.le_of_eq hcall.clock.symm⟩
      · unfold Supply.Payable
        rw [hcall.supply]
        exact h.payable
      -- the lookup whose turn it was has moved on, the others wait where they waited
      · rcases List.mem_or_eq_of_mem_set hw with hw | rfl
        · exact h.sound w hw
        · exact hcall.sound
  | supplied supply => exact ⟨⟨h.working, hturn, h.sound⟩, Nat.le_refl _⟩
  | passed span => exact ⟨⟨h.working, h.payable, h.sound⟩, Nat.le_add_right _ _⟩

theorem InOrder.run (h : c.InOrder) {turns : List Turn} (hturns : ∀ turn ∈ turns, turn.Payable) :
    (c.run ttl turns).InOrder ∧ c.time ≤ (c.run ttl turns).time := by
  refine History.run_keeps_of_forall (P := fun c' : Crowd ↦ c'.InOrder ∧ c.time ≤ c'.time)
    ⟨h, Nat.le_refl _⟩ (fun c' turn hturn ⟨hin, htime⟩ ↦ ?_) hturns
  obtain ⟨hnext, htime'⟩ := hin.step ttl hturn
  exact ⟨hnext, Nat.le_trans htime htime'⟩

/-! ### Where lists come from -/

/-- In this turn the list is written: the lookup has it to write, and comes out with it. -/
structure Writes (ttl : Nat) (c : Crowd) (visit : Nat) (key : String) (list : List Contribution) :
    Prop where
  /-- Before the turn the lookup has the list to write. -/
  waiting : c.visits[visit]? = some (key, .writing key list)
  /-- After the turn it has come out with the list. -/
  written : (c.step ttl (.call visit)).visits[visit]? = some (key, .settled (.ok list))

/-- The list was written in the past. -/
def WrittenIn (ttl : Nat) (start : Crowd) (past : List Turn) (key : String)
    (list : List Contribution) : Prop :=
  ∃ earlier visit later, past = earlier ++ .call visit :: later ∧
    (start.run ttl earlier).Writes ttl visit key list

theorem WrittenIn.later {start : Crowd} {past : List Turn} {key : String} {list : List Contribution}
    (h : WrittenIn ttl start past key list) (turn : Turn) :
    WrittenIn ttl start (past ++ [turn]) key list := by
  obtain ⟨earlier, visit, later, rfl, hwrites⟩ := h
  exact ⟨earlier, visit, later ++ [turn], by simp, hwrites⟩

/-- What is new in the cache after a turn has been written in it. -/
theorem entry_of_step (h : c.InOrder) {turn : Turn} {e : Entry}
    (he : e ∈ residents (c.step ttl turn).branch) :
    e ∈ residents c.branch ∨ ∃ visit key list, turn = .call visit ∧
      c.Writes ttl visit key list ∧ e.key = listKey key ∧ e.text = TextCache.encodeList list := by
  cases turn with
  | call n =>
    cases hv : c.visits[n]? with
    | none =>
      rw [step_call_none ttl hv] at he
      exact .inl he
    | some v =>
      obtain ⟨key, lookup⟩ := v
      have hsound := h.sound _ (List.mem_of_getElem? hv)
      have hstep := step_call ttl hv
      rw [hstep] at he
      rcases hcall : lookup.step (Branch.lists Supply.masterData ttl) c.branch with ⟨lookup', b'⟩
      rw [hcall] at he
      -- of the four points of a lookup only the last call writes
      cases lookup with
      | reading k =>
        obtain ⟨⟨es, tally, rfl, hmem⟩, -⟩ := reading_effect hcall
        exact .inl (hmem e he)
      | fetching k =>
        obtain ⟨⟨calls, rfl⟩, -⟩ := fetching_effect hcall
        exact .inl he
      | writing k list =>
        obtain ⟨rfl, -⟩ := hsound
        have hlt := (List.getElem?_eq_some_iff.1 hv).1
        obtain ⟨es, rfl, ⟨rfl, hset⟩ | ⟨rfl, hset⟩⟩ := writing_effect h.working hcall
        · rcases (Entries.mem_of_set hset).1 e he with he | rfl
          · exact .inl he
          · refine .inr ⟨n, k, list, rfl, ⟨hv, ?_⟩, rfl, rfl⟩
            rw [hstep, hcall]
            exact List.getElem?_set_self hlt
        · rw [Entries.eq_living_of_set hset] at he
          exact .inl (List.mem_filter.1 he).1
      | settled outcome =>
        cases hcall
        exact .inl he
  | arrival key => exact .inl he
  | supplied supply => exact .inl he
  | passed span => exact .inl he

/-- Every list in the cache, and every list that a lookup has come out with, was written in the
past. -/
structure Rooted (ttl : Nat) (start : Crowd) (past : List Turn) : Prop where
  /-- Every text in the cache is that of a list that was written. -/
  entries : ∀ e ∈ residents (start.run ttl past).branch, ∃ key list, e.key = listKey key ∧
    e.text = TextCache.encodeList list ∧ WrittenIn ttl start past key list
  /-- Every list that a lookup has come out with was written. -/
  settled : ∀ v ∈ (start.run ttl past).visits, ∀ list, v.2 = .settled (.ok list) →
    WrittenIn ttl start past v.1 list

/-- One more turn adds no list that was not written. -/
theorem Rooted.concat {start : Crowd} {past : List Turn} (h : Rooted ttl start past)
    (hin : (start.run ttl past).InOrder) (turn : Turn) : Rooted ttl start (past ++ [turn]) := by
  have hrun : start.run ttl (past ++ [turn]) = (start.run ttl past).step ttl turn :=
    History.run_concat past turn
  refine ⟨fun e he ↦ ?_, fun v hv list hlist ↦ ?_⟩
  · rw [hrun] at he
    rcases entry_of_step hin he with he | ⟨visit, key, list, rfl, hwrites, hkey, htext⟩
    · obtain ⟨key, list, hkey, htext, hwritten⟩ := h.entries e he
      exact ⟨key, list, hkey, htext, hwritten.later turn⟩
    · exact ⟨key, list, hkey, htext, past, visit, [], rfl, hwrites⟩
  · rw [hrun] at hv
    obtain ⟨n, hn⟩ := List.getElem?_of_mem hv
    rcases visit_of_step hn with hbefore | ⟨-, key, -, rfl⟩ | ⟨rfl, lookup, hbefore, hcame⟩
    · exact (h.settled v (List.mem_of_getElem? hbefore) list hlist).later turn
    · cases hlist
    · rw [hlist] at hcame
      have hsound := hin.sound _ (List.mem_of_getElem? hbefore)
      rcases hcall : lookup.step (Branch.lists Supply.masterData ttl) (start.run ttl past).branch
        with ⟨lookup', b'⟩
      rw [hcall] at hcame
      subst hcame
      -- a list comes from an entry, which was written, or has just been written itself
      cases lookup with
      | reading k =>
        obtain rfl : k = v.1 := hsound
        obtain ⟨-, hcame⟩ := reading_effect hcall
        rcases hcame with hcame | hcame | ⟨list', hcame, e, he, hkey, hdecode⟩
        · cases hcame
        · cases hcame
        · cases hcame
          obtain ⟨key, list', hkey', htext, hwritten⟩ := h.entries e he
          obtain rfl : key = v.1 := (String.append_right_inj listKeyStart).1 (hkey'.symm.trans hkey)
          rw [htext] at hdecode
          rw [TextCache.eq_of_decodeList_encodeList hdecode]
          exact hwritten.later _
      | fetching k =>
        obtain ⟨-, ⟨list', -, hcame⟩ | ⟨e, hcame⟩⟩ := fetching_effect hcall
        · cases hcame
        · cases hcame
      | writing k list' =>
        obtain ⟨rfl, -⟩ : k = v.1 ∧ _ := hsound
        obtain ⟨es, -, ⟨hcame, -⟩ | ⟨hcame, -⟩⟩ := writing_effect hin.working hcall
        · cases hcame
          exact ⟨past, n, [], rfl, hbefore, hlist ▸ hn⟩
        · cases hcame
      | settled outcome =>
        cases hcall
        exact (h.settled _ (List.mem_of_getElem? hbefore) list rfl).later _

/-- At the start there is no list. -/
theorem rooted_opening (now : Calendar.Timestamp) (time : Nat) (supply : Supply) :
    Rooted ttl (opening now time supply) [] :=
  ⟨fun _ he ↦ absurd he List.not_mem_nil, fun _ hv ↦ absurd hv List.not_mem_nil⟩

/-- **Every list was written by a lookup**, whatever the turns since the opening. -/
theorem rooted_run (now : Calendar.Timestamp) (time : Nat) {supply : Supply}
    (hsupply : supply.Payable) {turns : List Turn} (hturns : ∀ turn ∈ turns, turn.Payable) :
    Rooted ttl (opening now time supply) turns := by
  refine History.run_induction (step ttl) (s := opening now time supply)
    (P := fun past _ ↦ (∀ turn ∈ past, turn.Payable) → Rooted ttl (opening now time supply) past)
    (fun _ ↦ rooted_opening now time supply) (fun past turn ih hpayable ↦ ?_) turns hturns
  obtain ⟨hpast, -⟩ := List.forall_mem_append.1 hpayable
  exact (ih hpast).concat ((inOrder_opening now time hsupply).run hpast).1 turn

end Crowd

end Cache

end ContributionRegistry
