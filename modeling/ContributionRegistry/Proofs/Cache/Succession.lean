import ContributionRegistry.Proofs.Cache.Crowd

/-!
# Which list comes after which

Two lookups that have both missed may write different lists, one after the other: a list that one
lookup has come out with need not be the list that the next one comes out with
(`Crowd.later_answer_differs`). But only a lookup that had missed before can put another list in the
place of one that is good, because a lookup that comes while it is good finds a list and has nothing
to write. So what later lookups come out with is the list itself, or the list of a lookup that was
under way when it was written (`Crowd.later_answer`).

The lookups under way are the *rivals* (`Crowd.Rival`). Which they are is settled when the list is
written, and what is known from then on until the deadline is `Crowd.Guarded`: the cache keeps the
list or a rival's, whoever has missed is a rival, and whoever came later has found one of these
lists. A turn keeps each of the three (`Guarded.kept_step`, `Guarded.missed_step`,
`Guarded.late_step`).
-/

namespace ContributionRegistry.Cache

open Deployment (Branch)

section

variable {ttl : Nat} {b b' : Branch Supply} {key : String} {lookup : Lookup}

/-- A call that does not write under the key of a good entry leaves the entry where it is. -/
theorem Serves.call {e : Entry} {lookup' : Lookup} (h : Serves e b)
    (hne : ∀ k list, lookup = .writing k list → listKey k ≠ e.key)
    (hcall : lookup.step (Branch.lists Supply.masterData ttl) b = (lookup', b')) :
    Serves e b' := by
  cases lookup with
  | reading k =>
    rcases hread : Branch.texts.getList (listKey k) b with ⟨found, b₁⟩
    have hserves := h.of_spares (spares_getList e hread)
    have hread' : (Branch.lists Supply.masterData ttl).cache.getList (listKey k) b = (found, b₁) :=
      hread
    simp only [Lookup.step, hread'] at hcall
    rcases found with (x | _) | _ | list <;> cases hcall
    all_goals exact ⟨hserves.working, hserves.holds⟩
  | fetching k =>
    obtain ⟨⟨calls, rfl⟩, -⟩ := fetching_effect hcall
    exact ⟨h.working, h.holds⟩
  | writing k list =>
    have hset := h.holds.set (hne k list rfl) (TextCache.encodeList list) ttl
    obtain ⟨es, rfl, ⟨-, hes⟩ | ⟨-, hes⟩⟩ := writing_effect h.working hcall
    all_goals
      rw [hes] at hset
      exact ⟨h.working, hset⟩
  | settled outcome =>
    cases hcall
    exact h

/-- The call of a lookup that writes puts its own entry in the place of the one that is there, or
leaves that one. -/
theorem Serves.writing {e : Entry} {lookup' : Lookup} {list : List Contribution} (h : Serves e b)
    (hcall : (Lookup.writing key list).step (Branch.lists Supply.masterData ttl) b =
      (lookup', b')) :
    (lookup' = .settled (.ok list) ∧
      Serves ⟨listKey key, TextCache.encodeList list, clock b + ttl⟩ b') ∨
    (lookup' = .settled (.error .abandoned) ∧ Serves e b') := by
  obtain ⟨es, rfl, ⟨rfl, hes⟩ | ⟨rfl, hes⟩⟩ := writing_effect h.working hcall
  · exact .inl ⟨rfl, h.working, Entries.holds_of_set hes⟩
  · refine .inr ⟨rfl, h.working, ?_⟩
    rw [Entries.eq_living_of_set hes]
    exact h.holds.living

end

namespace Crowd

variable {ttl : Nat} {c : Crowd}

/-! ### While a list that was written is good -/

/-- Another lookup for the key is under way: it has missed and has not come out yet. -/
def Rival (c : Crowd) (visit : Nat) (key : String) (n : Nat) : Prop :=
  n ≠ visit ∧ ∃ lookup : Lookup, c.visits[n]? = some (key, lookup) ∧ lookup.Pending

/-- The list, or one that a rival has come out with. -/
def Succeeds (rival : Nat → Prop) (key : String) (list : List Contribution) (c : Crowd)
    (given : List Contribution) : Prop :=
  given = list ∨ ∃ n, rival n ∧ c.visits[n]? = some (key, .settled (.ok given))

/-- An entry that is good for the time to live holds the list, or what has come in its place. -/
def Keeps (ttl : Nat) (rival : Nat → Prop) (key : String) (list : List Contribution) (since : Nat)
    (c : Crowd) : Prop :=
  ∃ e given, Serves e c.branch ∧ e.key = listKey key ∧ since + ttl ≤ e.deadline ∧
    TextCache.decodeList e.text = .ok given ∧ c.Succeeds rival key list given

/-- What is known after a list was written under the key, until the deadline: it is kept, whoever
has missed is a rival, and whoever came later has not. -/
structure Guarded (ttl : Nat) (rival : Nat → Prop) (key : String) (list : List Contribution)
    (since first : Nat) (c : Crowd) : Prop where
  /-- The list was written in the past. -/
  time : since ≤ c.time
  /-- The cache keeps the list, or what has come in its place. -/
  kept : c.Keeps ttl rival key list since
  /-- Whoever has missed and not come out yet is a rival. -/
  missed : ∀ (n : Nat) (lookup : Lookup), c.visits[n]? = some (key, lookup) → lookup.Pending →
    rival n
  /-- Whoever came later is about to read, or has come out with one of these lists. -/
  late : ∀ n lookup, first ≤ n → c.visits[n]? = some (key, lookup) → lookup = .reading key ∨
    ∃ given, lookup = .settled (.ok given) ∧ c.Succeeds rival key list given

section

variable {rival : Nat → Prop} {key : String} {list : List Contribution} {since first : Nat}

/-- What a rival has come out with it has come out with for good. -/
theorem Succeeds.step {given : List Contribution} (h : c.Succeeds rival key list given)
    (turn : Turn) : (c.step ttl turn).Succeeds rival key list given := by
  rcases h with rfl | ⟨n, hrival, hv⟩
  · exact .inl rfl
  · exact .inr ⟨n, hrival, settled_step hv turn⟩

/-- Right after the list was written, the others who have missed are rivals. -/
theorem guarded_of_writes (hin : c.InOrder) {visit : Nat} (h : c.Writes ttl visit key list) :
    Guarded ttl (c.Rival visit key) key list c.time c.visits.length (c.step ttl (.call visit)) := by
  obtain ⟨-, hpayable⟩ := hin.sound _ (List.mem_of_getElem? h.waiting)
  have hdecode := TextCache.decodeList_encodeList_of_payable hpayable
  have hlt := (List.getElem?_eq_some_iff.1 h.waiting).1
  have hstep := step_call ttl h.waiting
  rcases hcall : (Lookup.writing key list).step (Branch.lists Supply.masterData ttl) c.branch with
    ⟨lookup', b'⟩
  have hwritten := h.written
  rw [hcall] at hstep
  rw [hstep, List.getElem?_set_self hlt] at hwritten
  obtain ⟨es, rfl, ⟨-, hes⟩ | ⟨rfl, -⟩⟩ := writing_effect hin.working hcall
  · refine ⟨?_, ⟨⟨listKey key, TextCache.encodeList list, clock c.branch + ttl⟩, list, ?_, rfl,
      Nat.le_refl _, hdecode, .inl rfl⟩, fun n lookup hv hpending ↦ ?_, fun n lookup hn hv ↦ ?_⟩
    · rw [hstep]
      exact Nat.le_refl _
    · rw [hstep]
      exact ⟨hin.working, Entries.holds_of_set hes⟩
    -- who still waits now has waited before, because the turn was this lookup's
    · by_cases hvisit : n = visit
      · subst hvisit
        cases hv.symm.trans h.written
        exact hpending.elim
      · rcases visit_of_step hv with hv | ⟨-, k, hturn, -⟩ | ⟨hturn, -⟩
        · exact ⟨hvisit, lookup, hv, hpending⟩
        · cases hturn
        · cases hturn
          exact absurd rfl hvisit
    · have hlength : (c.step ttl (.call visit)).visits.length = c.visits.length := by
        rw [hstep, List.length_set]
      exact absurd (hlength ▸ (List.getElem?_eq_some_iff.1 hv).1) (Nat.not_lt.2 hn)
  · cases hwritten

/-- Whoever reads while the entry is good comes out with what has been put there. -/
theorem Guarded.reading (h : Guarded ttl rival key list since first c)
    (hlive : c.time < since + ttl) :
    ∃ given, ((Lookup.reading key).step (Branch.lists Supply.masterData ttl) c.branch).1 =
      .settled (.ok given) ∧ c.Succeeds rival key list given := by
  obtain ⟨e, given, hserves, hkey, hdeadline, hdecode, hsucceeds⟩ := h.kept
  have hgood : clock c.branch < e.deadline := Nat.lt_of_lt_of_le hlive hdeadline
  rw [reading_of_holds ttl hserves.working.1 hserves.holds hkey hgood hdecode]
  exact ⟨given, rfl, hsucceeds⟩

/-- Nobody but a rival has missed after a turn. -/
theorem Guarded.missed_step (h : Guarded ttl rival key list since first c) (hin : c.InOrder)
    (hlive : c.time < since + ttl) {turn : Turn} {n : Nat} {lookup : Lookup}
    (hv : (c.step ttl turn).visits[n]? = some (key, lookup)) (hpending : lookup.Pending) :
    rival n := by
  rcases visit_of_step hv with hv | ⟨-, k, -, hnew⟩ | ⟨-, earlier, hv, rfl⟩
  · exact h.missed n lookup hv hpending
  · cases hnew
    exact hpending.elim
  · cases earlier with
    | reading k =>
      obtain rfl : k = key := hin.sound _ (List.mem_of_getElem? hv)
      obtain ⟨given, hhit, -⟩ := h.reading hlive
      rw [hhit] at hpending
      exact hpending.elim
    | fetching k => exact h.missed n _ hv trivial
    | writing k list' => exact h.missed n _ hv trivial
    | settled outcome => exact hpending.elim

/-- Whoever came later finds one of these lists. -/
theorem Guarded.late_step (h : Guarded ttl rival key list since first c)
    (hlive : c.time < since + ttl) {turn : Turn} {n : Nat} {lookup : Lookup} (hn : first ≤ n)
    (hv : (c.step ttl turn).visits[n]? = some (key, lookup)) :
    lookup = .reading key ∨
      ∃ given, lookup = .settled (.ok given) ∧ (c.step ttl turn).Succeeds rival key list given := by
  rcases visit_of_step hv with hv | ⟨-, k, -, hnew⟩ | ⟨-, earlier, hv, rfl⟩
  · rcases h.late n lookup hn hv with hreading | ⟨given, hsettled, hsucceeds⟩
    · exact .inl hreading
    · exact .inr ⟨given, hsettled, hsucceeds.step turn⟩
  · cases hnew
    exact .inl rfl
  · rcases h.late n earlier hn hv with rfl | ⟨given, rfl, hsucceeds⟩
    · obtain ⟨given, hhit, hsucceeds⟩ := h.reading hlive
      exact .inr ⟨given, hhit, hsucceeds.step turn⟩
    · exact .inr ⟨given, rfl, hsucceeds.step turn⟩

/-- The cache keeps one of these lists. -/
theorem Guarded.kept_step (h : Guarded ttl rival key list since first c) (hin : c.InOrder)
    (turn : Turn) : (c.step ttl turn).Keeps ttl rival key list since := by
  obtain ⟨e, given, hserves, hkey, hdeadline, hdecode, hsucceeds⟩ := h.kept
  have kept (hbranch : Serves e (c.step ttl turn).branch) :
      (c.step ttl turn).Keeps ttl rival key list since :=
    ⟨e, given, hbranch, hkey, hdeadline, hdecode, hsucceeds.step turn⟩
  cases turn with
  | arrival k => exact kept hserves
  | supplied supply => exact kept ⟨hserves.working, hserves.holds⟩
  | passed span => exact kept ⟨hserves.working, hserves.holds.mono (Nat.le_add_right _ _)⟩
  | call n =>
    cases hv : c.visits[n]? with
    | none => exact kept (by rwa [step_call_none ttl hv])
    | some v =>
      obtain ⟨k, lookup⟩ := v
      have hsound := hin.sound _ (List.mem_of_getElem? hv)
      have hstep := step_call ttl hv
      rcases hcall : lookup.step (Branch.lists Supply.masterData ttl) c.branch with ⟨lookup', b'⟩
      rw [hcall] at hstep
      by_cases hwriting : ∃ list', lookup = .writing key list'
      · obtain ⟨list', rfl⟩ := hwriting
        obtain ⟨rfl, hpayable⟩ := hsound
        rcases hserves.writing hcall with ⟨rfl, hserves'⟩ | ⟨-, hserves'⟩
        -- a rival has written a list of its own, which is good for longer
        · have hlt := (List.getElem?_eq_some_iff.1 hv).1
          refine ⟨⟨listKey key, TextCache.encodeList list', clock c.branch + ttl⟩, list', ?_, rfl,
            Nat.add_le_add_right h.time ttl,
            TextCache.decodeList_encodeList_of_payable hpayable,
            .inr ⟨n, h.missed n _ hv trivial, ?_⟩⟩
          · rw [hstep]
            exact hserves'
          · rw [hstep]
            exact List.getElem?_set_self hlt
        · exact kept (by rwa [hstep])
      · refine kept ?_
        rw [hstep]
        refine hserves.call (fun k' list' hlookup heq ↦ hwriting ⟨list', ?_⟩) hcall
        rw [hlookup, (String.append_right_inj listKeyStart).1 (heq.trans hkey)]

/-- A turn leaves the list guarded, as long as it is good. -/
theorem Guarded.step (h : Guarded ttl rival key list since first c) (hin : c.InOrder)
    (hlive : c.time < since + ttl) {turn : Turn} (hturn : turn.Payable) :
    Guarded ttl rival key list since first (c.step ttl turn) where
  time := Nat.le_trans h.time (hin.step ttl hturn).2
  kept := h.kept_step hin turn
  missed _ _ hv hpending := h.missed_step hin hlive hv hpending
  late _ _ hn hv := h.late_step hlive hn hv

/-- The list is guarded as long as it is good. -/
theorem Guarded.run (h : Guarded ttl rival key list since first c) (hin : c.InOrder)
    {turns : List Turn} (hturns : ∀ turn ∈ turns, turn.Payable)
    (hlive : (c.run ttl turns).time < since + ttl) :
    Guarded ttl rival key list since first (c.run ttl turns) := by
  induction turns generalizing c with
  | nil => exact h
  | cons turn turns ih =>
    obtain ⟨hfirst, hrest⟩ := List.forall_mem_cons.1 hturns
    have hnow : c.time < since + ttl := Nat.lt_of_le_of_lt (hin.run hturns).2 hlive
    exact ih (h.step hin hnow hfirst) (hin.step ttl hfirst).1 hrest hlive

end

/-- **A list that was written is good for its time to live, or for as long as nobody who had missed
before puts another in its place.** Once a lookup for a key has come out with a list, that list has
been written, and every lookup for the key that arrives later and is out before the time to live is
over comes out with the list, or with that of another lookup which had missed, and had not come out,
when the list was written. -/
theorem later_answer (ttl : Nat) (now : Calendar.Timestamp) (time : Nat) {supply : Supply}
    (hsupply : supply.Payable) {past : List Turn} (hpast : ∀ turn ∈ past, turn.Payable) {i : Nat}
    {key : String} {list : List Contribution}
    (hi : ((opening now time supply).run ttl past).visits[i]? = some (key, .settled (.ok list))) :
    let start := opening now time supply
    WrittenIn ttl start past key list ∧
    ∀ earlier visit later, past = earlier ++ .call visit :: later →
      (start.run ttl earlier).Writes ttl visit key list →
      ∀ future, (∀ turn ∈ future, turn.Payable) → ∀ j outcome,
        (start.run ttl past).visits.length ≤ j →
        (start.run ttl (past ++ future)).visits[j]? = some (key, .settled outcome) →
        (start.run ttl (past ++ future)).time < (start.run ttl earlier).time + ttl →
        ∃ given, outcome = .ok given ∧ (given = list ∨
          ∃ n, (start.run ttl earlier).Rival visit key n ∧
            (start.run ttl (past ++ future)).visits[n]? = some (key, .settled (.ok given))) := by
  intro start
  have hstart : start.InOrder := inOrder_opening now time hsupply
  have hrooted : Rooted ttl start past := rooted_run now time hsupply hpast
  refine ⟨hrooted.settled _ (List.mem_of_getElem? hi) list rfl, ?_⟩
  intro earlier visit later hsplit hwrites future hfuture j outcome hj hv hlive
  obtain ⟨hearlier, hlater⟩ := List.forall_mem_append.1 (hsplit ▸ hpast)
  obtain ⟨hcall, hlater⟩ := List.forall_mem_cons.1 hlater
  have hin : (start.run ttl earlier).InOrder := (hstart.run hearlier).1
  -- the run is what led to the writing, the writing, and what came after it
  have hrest : start.run ttl (past ++ future) =
      ((start.run ttl earlier).step ttl (.call visit)).run ttl (later ++ future) := by
    rw [hsplit, List.append_assoc]
    exact History.run_append earlier (.call visit :: (later ++ future))
  have hguarded := (guarded_of_writes hin hwrites).run (hin.step ttl hcall).1
    (List.forall_mem_append.2 ⟨hlater, hfuture⟩) (hrest ▸ hlive)
  rw [← hrest] at hguarded
  have hfirst : (start.run ttl earlier).visits.length ≤ (start.run ttl past).visits.length := by
    rw [hsplit, run, run, History.run_append]
    exact length_le_run _ _
  rcases hguarded.late j _ (Nat.le_trans hfirst hj) hv with hreading | ⟨given, hsettled, hsucceeds⟩
  · cases hreading
  · cases hsettled
    exact ⟨given, rfl, hsucceeds⟩

/-! ### A list that is put in the place of another -/

/-- A contribution for a January. -/
def january : Contribution where
  id := "c"
  period := ⟨2025, 1, by decide, by decide, by decide⟩
  rssbNumber := "1"
  matricule := "2"
  amount := Amount.largest
  createdAt := .startOf .epoch
  updatedAt := .startOf .epoch

/-- Of two lookups that miss, the first is told that there is nothing and waits; the second is told
of a contribution that has come meanwhile, and is about to write. -/
def overtaking : List Turn :=
  [.arrival "1", .arrival "1", .call 0, .call 1, .call 0,
    .supplied (Supply.serveContributions "1" [january] {}), .call 1]

/-- After the second the first writes what it was told, and a third lookup comes and reads. -/
def overtaken : List Turn := [.call 0, .arrival "1", .call 2]

/-- The contribution that comes meanwhile is payable. -/
theorem payable_overtaking : ∀ turn ∈ overtaking ++ [.call 1] ++ overtaken, turn.Payable := by
  have hpayable : (Supply.serveContributions "1" [january] {}).Payable := by
    intro served hserved c hc
    obtain rfl := List.mem_singleton.1 hserved
    obtain rfl := List.mem_singleton.1 hc
    decide
  simp [overtaking, overtaken, Turn.Payable, hpayable]

/-- What the third lookup comes out with is a rival's. -/
theorem later_answer_overtaken :
    let start := opening (.startOf .epoch) 0 {}
    let past := overtaking ++ [.call 1]
    (start.run 60000 (past ++ overtaken)).visits[2]? = some ("1", .settled (.ok [])) ∧
    ∃ n, (start.run 60000 overtaking).Rival 1 "1" n ∧
      (start.run 60000 (past ++ overtaken)).visits[n]? = some ("1", .settled (.ok [])) := by
  intro start past
  have hpayable := payable_overtaking
  obtain ⟨hpast, hfuture⟩ := List.forall_mem_append.1 hpayable
  have hsupply : Supply.Payable {} := fun _ hserved ↦ absurd hserved List.not_mem_nil
  have hcame : (start.run 60000 past).visits[1]? = some ("1", .settled (.ok [january])) := by
    decide +kernel
  have hwrites : (start.run 60000 overtaking).Writes 60000 1 "1" [january] :=
    ⟨by decide +kernel, by decide +kernel⟩
  have hthird : (start.run 60000 (past ++ overtaken)).visits[2]? =
      some ("1", .settled (.ok [])) := by decide +kernel
  obtain ⟨-, hgood⟩ := later_answer 60000 (.startOf .epoch) 0 hsupply hpast hcame
  obtain ⟨given, hgiven, hlist⟩ := hgood overtaking 1 [] rfl hwrites overtaken hfuture 2 (.ok [])
    (by decide +kernel) hthird (by decide +kernel)
  cases hgiven
  rcases hlist with hlist | hrival
  · cases hlist
  · exact ⟨hthird, hrival⟩

/-- The list of the second lookup is in the cache when it has come out with it, and should be good
for a minute; the third lookup comes later, in no time, and comes out with another list. -/
theorem later_answer_differs :
    let start := opening (.startOf .epoch) 0 {}
    let past := overtaking ++ [.call 1]
    (start.run 60000 overtaking).Writes 60000 1 "1" [january] ∧
    (start.run 60000 past).visits[1]? = some ("1", .settled (.ok [january])) ∧
    (start.run 60000 past).visits.length ≤ 2 ∧
    (start.run 60000 (past ++ overtaken)).visits[2]? = some ("1", .settled (.ok [])) ∧
    (start.run 60000 (past ++ overtaken)).time < (start.run 60000 overtaking).time + 60000 ∧
    (∀ turn ∈ past ++ overtaken, turn.Payable) := by
  intro start past
  refine ⟨⟨?_, ?_⟩, ?_, ?_, ?_, ?_, payable_overtaking⟩ <;> decide +kernel

end Crowd

end ContributionRegistry.Cache
