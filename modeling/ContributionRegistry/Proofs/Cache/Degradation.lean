import ContributionRegistry.Proofs.Cache.Retention

/-!
# Trouble with the cache

A lookup whose cache cannot be read, or has something under the key that is no list, does what it
does when nothing is there: it asks master data, once, and comes out with the answer, be it a list
or a failure (`lookup_troubled`). Whether the list can be written makes no difference to that.

If it can, it takes the place of what could not be read, and the next lookup finds it. What carries
this is `Lasting`: the cache holds a text of the list for the employee until the deadline at least.
Meanwhile the cache may fail and recover; a lookup that cannot read it then may write the list anew,
but no other one (`Loyal`).

Trouble has two sides, and the argument keeps them apart. To *read* in trouble is to miss
(`Troubled.read`), and from a miss on a lookup goes its way whatever the reason (`lookup_of_failed`,
`lookup_of_told`, `lookup_of_unwritten`). To *write* is left to the switch, and if it is off, the
entries stay as they were but for one that had expired (`Unwritten`).
-/

namespace ContributionRegistry.Cache

open Deployment (Branch)

variable {ttl : Nat} {key : String} {b b₁ : Branch Supply} {list : List Contribution}

/-! ### From a miss on -/

/-- The branch after a miss and a question to master data. -/
def questioned (b : Branch Supply) : Branch Supply :=
  { b with
    tally := { b.tally with misses := b.tally.misses + 1 }
    supply := { b.supply with contributionCalls := b.supply.contributionCalls + 1 } }

/-- A miss is followed by one question. -/
theorem ask_missed (ttl : Nat) (key : String) (b : Branch Supply) :
    (Branch.lists Supply.masterData ttl).source.contributions key
      ((Branch.lists Supply.masterData ttl).miss b) =
        (Attempt.ofExcept (answer b key), questioned b) := rfl

section

variable {found : Attempt StoreError (Option (List Contribution))}
  (hread : Branch.texts.getList (listKey key) b = (found, b₁)) (hmissed : Missed found)

include hread hmissed

/-- A failure of master data is the outcome. -/
theorem lookup_of_failed {cause : RemoteError} (hanswer : answer b₁ key = .error cause) :
    lookup ttl key b = (.error (.refused (.source cause)), questioned b₁) := by
  have hask := ask_missed ttl key b₁
  rw [hanswer] at hask
  rw [lookup, fetch_eq_ending (step_of_missed hread hmissed)]
  simp only [ending, Action.finish, Lookup.finish, Lookup.step, hask]
  rfl

/-- A list of master data is the outcome, unless its writing is abandoned. -/
theorem lookup_of_told (hanswer : answer b₁ key = .ok list) :
    (lookup ttl key b).2 = (Branch.texts.setList (listKey key) list ttl (questioned b₁)).2 ∧
      ((Branch.texts.setList (listKey key) list ttl (questioned b₁)).1 ≠ .error .abandoned →
        (lookup ttl key b).1 = .ok list) := by
  have hask := ask_missed ttl key b₁
  rw [hanswer] at hask
  rcases hwrite : Branch.texts.setList (listKey key) list ttl (questioned b₁) with ⟨written, b₂⟩
  have hwrite' : (Branch.lists Supply.masterData ttl).cache.setList (listKey key) list
      (Branch.lists Supply.masterData ttl).ttl (questioned b₁) = (written, b₂) := hwrite
  rw [lookup, fetch_eq_ending (step_of_missed hread hmissed)]
  simp only [ending, Action.finish, Lookup.finish, Lookup.step, hask, Attempt.ofExcept, hwrite']
  rcases written with (x | _) | _
  · exact ⟨rfl, fun _ ↦ rfl⟩
  · exact ⟨rfl, fun hended ↦ absurd rfl hended⟩
  · exact ⟨rfl, fun _ ↦ rfl⟩

/-- If the writing of the list is abandoned, so is the lookup. -/
theorem lookup_of_unwritten {b₂ : Branch Supply} (hanswer : answer b₁ key = .ok list)
    (hwrite : Branch.texts.setList (listKey key) list ttl (questioned b₁) =
      (.error .abandoned, b₂)) : lookup ttl key b = (.error .abandoned, b₂) := by
  have hask := ask_missed ttl key b₁
  rw [hanswer] at hask
  have hwrite' : (Branch.lists Supply.masterData ttl).cache.setList (listKey key) list
      (Branch.lists Supply.masterData ttl).ttl (questioned b₁) = (.error .abandoned, b₂) := hwrite
  rw [lookup, fetch_eq_ending (step_of_missed hread hmissed)]
  simp only [ending, Action.finish, Lookup.finish, Lookup.step, hask, Attempt.ofExcept, hwrite']
  rfl

end

/-- A lookup fails of master data exactly if the cache gives no list and master data fails. -/
theorem lookup_failed_iff {cause : RemoteError} :
    (lookup ttl key b).1 = .error (.refused (.source cause)) ↔
      Missed (Branch.texts.getList (listKey key) b).1 ∧ answer b key = .error cause := by
  constructor
  · intro hout
    obtain ⟨haccounted, -⟩ := effect_of_course (course_lookup ttl key b)
    rw [hout] at haccounted
    obtain ⟨-, hmissed, cause', hcause, hanswer⟩ := haccounted
    cases hcause
    exact ⟨hmissed, hanswer⟩
  · rintro ⟨hmissed, hanswer⟩
    rcases hread : Branch.texts.getList (listKey key) b with ⟨found, b₁⟩
    rw [hread] at hmissed
    obtain ⟨⟨es, rfl⟩, -⟩ := getList_effect hread
    have hsame : answer (withResidents b es) key = answer b key := rfl
    rw [lookup_of_failed hread hmissed (hsame.trans hanswer)]

/-! ### Trouble -/

/-- The entry under the key of an employee's list. -/
def resident (key : String) (b : Branch Supply) : Option Entry :=
  Entries.entry? (residents b) (listKey key)

/-- A lookup gets no list from the cache: it cannot be read, or what is under the key is none. -/
def Troubled (key : String) (b : Branch Supply) : Prop :=
  b.cache.faults.get = true ∨
    ∀ e, resident key b = some e → ∃ x, TextCache.decodeList e.text = .error (.refused x)

/-- Nothing is written: the entries are the same, but for one under the key that had expired. -/
def Unwritten (key : String) (b b' : Branch Supply) : Prop :=
  residents b' = residents b ∨ ∃ e, resident key b = some e ∧ e.deadline ≤ clock b ∧
    residents b' = (residents b).drop (listKey key)

/-- Trouble is a miss, and nothing is written. -/
theorem Troubled.read (h : Troubled key b) : ∃ found es,
    Branch.texts.getList (listKey key) b = (found, withResidents b es) ∧ Missed found ∧
      Unwritten key b (withResidents b es) := by
  rcases hget : b.cache.faults.get with _ | _
  · have hbad : ∀ e, resident key b = some e →
        ∃ x, TextCache.decodeList e.text = .error (.refused x) := by
      refine h.resolve_left ?_
      rw [hget]
      decide
    rw [getList_of_readable hget]
    refine ⟨_, _, rfl, ?_⟩
    unfold Entries.get
    split
    · exact ⟨.inl rfl, .inl rfl⟩
    · next e hentry =>
      split
      · obtain ⟨x, hx⟩ := hbad e hentry
        refine ⟨.inr ⟨x, ?_⟩, .inl rfl⟩
        rw [TextCache.decodeFound, hx]
        rfl
      · next hpast =>
        have hexpired : e.deadline ≤ clock b := by simpa [Entry.live] using hpast
        exact ⟨.inl rfl, .inr ⟨e, hentry, hexpired, rfl⟩⟩
  · exact ⟨_, residents b, getList_of_unreadable hget _, .inr ⟨_, rfl⟩, .inl rfl⟩

/-! ### A list that lasts -/

/-- Until the deadline at least, the cache holds a text of the list for the employee. -/
def Lasting (key : String) (list : List Contribution) (deadline : Nat) (b : Branch Supply) : Prop :=
  ∃ e : Entry, e.key = listKey key ∧ e.text = TextCache.encodeList list ∧ deadline ≤ e.deadline ∧
    (residents b).Holds (clock b) e

/-- If a lookup for the employee cannot read the cache, it does not write another list to it. -/
def Loyal (key : String) (list : List Contribution) (b : Branch Supply) : Prop :=
  b.cache.faults.get = true →
    b.cache.faults.set = true ∨ ∀ other, answer b key = .ok other → other = list

section

variable {deadline : Nat}

/-- What spares the entries of the employee lets the list last. -/
theorem Lasting.of_spares (h : Lasting key list deadline b)
    (hspares : ∀ e : Entry, e.key = listKey key → Spares e b b₁) :
    Lasting key list deadline b₁ := by
  obtain ⟨e, hkey, htext, hdeadline, hholds⟩ := h
  exact ⟨e, hkey, htext, hdeadline, (hspares e hkey).holds hholds⟩

/-- Writing the list anew does not shorten its time. -/
theorem Lasting.rewrite (h : Lasting key list deadline b) (hdeadline : deadline ≤ clock b + ttl) :
    Lasting key list deadline (Branch.texts.setList (listKey key) list ttl b).2 := by
  rcases hset : b.cache.faults.set with _ | _
  · rw [setList_of_writable hset]
    rcases hes : (residents b).set (clock b) (listKey key) (TextCache.encodeList list) ttl with
      ⟨_ | _, es⟩
    · obtain ⟨e, hkey, htext, hlong, hholds⟩ := h
      refine ⟨e, hkey, htext, hlong, ?_⟩
      show es.Holds (clock b) e
      rw [Entries.eq_living_of_set hes]
      exact hholds.living
    · exact ⟨⟨listKey key, TextCache.encodeList list, clock b + ttl⟩, rfl, rfl, hdeadline,
        Entries.holds_of_set hes⟩
  · rwa [setList_of_unwritable hset]

/-- A lookup for the employee finds the list, or cannot read the cache and writes no other one. -/
theorem Lasting.lookup (h : Lasting key list deadline b) (hlive : clock b < deadline)
    (hdeadline : deadline ≤ clock b + ttl) (hloyal : Loyal key list b)
    (hdecode : TextCache.decodeList (TextCache.encodeList list) = .ok list) :
    Lasting key list deadline (lookup ttl key b).2 := by
  rcases hget : b.cache.faults.get with _ | _
  · obtain ⟨e, hkey, htext, hlong, hholds⟩ := h
    rw [lookup_of_holds ttl hget hholds hkey (Nat.lt_of_lt_of_le hlive hlong) (htext ▸ hdecode)]
    exact ⟨e, hkey, htext, hlong, hholds⟩
  · have hread := getList_of_unreadable hget (listKey key)
    have hmissed : Missed (Attempt.refuse SwitchedCache.fault) := .inr ⟨_, rfl⟩
    have hasked : Lasting key list deadline (questioned b) := h
    rcases hanswer : answer b key with cause | other
    · rw [lookup_of_failed hread hmissed hanswer]
      exact hasked
    · rw [(lookup_of_told hread hmissed hanswer).1]
      rcases hloyal hget with hset | hsame
      · have hset' : (questioned b).cache.faults.set = true := hset
        rwa [setList_of_unwritable hset']
      · rw [hsame other hanswer]
        exact hasked.rewrite hdeadline

/-- **The list lasts**, whatever happens before the deadline. -/
theorem Lasting.step (h : Lasting key list deadline b) (hlive : clock b < deadline)
    (hdeadline : deadline ≤ clock b + ttl)
    (hdecode : TextCache.decodeList (TextCache.encodeList list) = .ok list)
    {happening : Happening} (hloyal : happening = .lookup key → Loyal key list b) :
    Lasting key list deadline (step ttl b happening) := by
  cases happening with
  | lookup key' =>
    by_cases hsame : key' = key
    · subst hsame
      exact h.lookup hlive hdeadline (hloyal rfl) hdecode
    · refine h.of_spares fun e hkey ↦ spares_lookup ttl b fun hlist ↦ hsame ?_
      exact (String.append_right_inj listKeyStart).1 (hlist.trans hkey)
  | stats => exact h.of_spares fun e _ ↦ spares_stats e ttl b
  | served key' list' => exact h
  | outage cause => exact h
  | faults faults => exact h
  | passed span =>
    obtain ⟨e, hkey, htext, hlong, hholds⟩ := h
    exact ⟨e, hkey, htext, hlong, hholds.mono (Nat.le_add_right _ _)⟩

/-- The list lasts as long as it is good, whatever happens. -/
theorem Lasting.after (h : Lasting key list deadline b) (hdeadline : deadline ≤ clock b + ttl)
    (hdecode : TextCache.decodeList (TextCache.encodeList list) = .ok list)
    {between : List Happening}
    (hloyal : ∀ earlier later, between = earlier ++ .lookup key :: later →
      Loyal key list (after ttl b earlier))
    (hlive : clock (after ttl b between) < deadline) :
    Lasting key list deadline (after ttl b between) := by
  refine History.run_keeps_along h fun earlier happening later hsplit hlasting ↦ ?_
  -- the clock does not go back, so it is before the deadline all along
  have hrest : Cache.after ttl b between =
      Cache.after ttl (Cache.after ttl b earlier) (happening :: later) :=
    hsplit ▸ History.run_append earlier (happening :: later)
  have hnow : clock (Cache.after ttl b earlier) < deadline :=
    Nat.lt_of_le_of_lt (clock_le_after ttl _ _) (hrest ▸ hlive)
  have hsince := Nat.add_le_add_right (clock_le_after ttl b earlier) ttl
  refine hlasting.step hnow (Nat.le_trans hdeadline hsince) hdecode ?_
  rintro rfl
  exact hloyal earlier later hsplit

end

/-! ### What becomes of a lookup in trouble -/

/-- What is written is found under its key. -/
theorem Entries.entry?_of_set {es es' : Entries} {now : Nat} {key text : String}
    (h : es.set now key text ttl = (some (), es')) :
    es'.entry? key = some ⟨key, text, now + ttl⟩ := by
  unfold Entries.set at h
  split at h
  · cases h
    have hdropped : ((es.living now).drop key).find? (fun e ↦ e.key == key) = none := by
      rw [List.find?_eq_none]
      intro e he
      simpa using (List.mem_filter.1 he).2
    unfold Entries.entry?
    rw [List.find?_append, hdropped, Option.none_or, List.find?_singleton,
      if_pos (beq_self_eq_true key)]
  · cases h

/-- A list that can be written is held from then on, in place of anything under the key. -/
theorem lookup_of_written {found : Attempt StoreError (Option (List Contribution))} {es : Entries}
    (hread : Branch.texts.getList (listKey key) b = (found, withResidents b es))
    (hmissed : Missed found) (hanswer : answer b key = .ok list)
    (hset : b.cache.faults.set = false) (hbound : clock b + ttl < clockBound) :
    ∃ es', lookup ttl key b = (.ok list, withResidents (questioned b) es') ∧
      es.set (clock b) (listKey key) (TextCache.encodeList list) ttl = (some (), es') := by
  rcases hes : es.set (clock b) (listKey key) (TextCache.encodeList list) ttl with ⟨_ | _, es'⟩
  · obtain ⟨-, hbeyond⟩ := Entries.mem_of_set hes
    exact absurd hbound (Nat.not_lt.2 (hbeyond rfl))
  · have hwrite : Branch.texts.setList (listKey key) list ttl (questioned (withResidents b es)) =
        (.ok (), withResidents (questioned b) es') := by
      have hset' : (questioned (withResidents b es)).cache.faults.set = false := hset
      have hes' : (residents (questioned (withResidents b es))).set
          (clock (questioned (withResidents b es))) (listKey key) (TextCache.encodeList list) ttl =
            (some (), es') := hes
      rw [setList_of_writable hset', hes']
      rfl
    have hanswer' : answer (withResidents b es) key = .ok list := hanswer
    obtain ⟨hstate, houtcome⟩ := lookup_of_told hread hmissed hanswer'
    rw [hwrite] at hstate houtcome
    exact ⟨es', Prod.ext (houtcome nofun) hstate, rfl⟩

/-- A lookup that cannot write comes out with what it is told. -/
theorem lookup_of_unwritable {found : Attempt StoreError (Option (List Contribution))}
    (hread : Branch.texts.getList (listKey key) b = (found, b₁)) (hmissed : Missed found)
    (hanswer : answer b₁ key = .ok list) (hset : b₁.cache.faults.set = true) :
    lookup ttl key b = (.ok list, questioned b₁) := by
  have hset' : (questioned b₁).cache.faults.set = true := hset
  obtain ⟨hstate, houtcome⟩ := lookup_of_told hread hmissed hanswer
  rw [setList_of_unwritable hset'] at hstate houtcome
  exact Prod.ext (houtcome nofun) hstate

/-- **Trouble with the cache costs a question to master data and nothing else.** The lookup comes
out with the answer, whatever it is, and counts as a miss. A failure, or a list that cannot be
written, leaves the cache alone; a list that can be takes the place of what is under the key, and
lasts until its time is up: the next lookup that can read the cache is a hit. -/
theorem lookup_troubled (hbound : clock b + ttl < clockBound) (htroubled : Troubled key b) :
    let b' := (lookup ttl key b).2
    (lookup ttl key b).1 = (Attempt.ofExcept (answer b key)).restate .source ∧
      asks b' = asks b + 1 ∧
      b'.tally = { hits := b.tally.hits, misses := b.tally.misses + 1 } ∧
      match answer b key, b.cache.faults.set with
      | .error _, _ | .ok _, true => Unwritten key b b'
      | .ok list, false =>
        resident key b' = some ⟨listKey key, TextCache.encodeList list, clock b + ttl⟩ ∧
        ((∀ c ∈ list, c.amount.Payable) → ∀ between,
          (∀ earlier later, between = earlier ++ .lookup key :: later →
            Loyal key list (after ttl b' earlier)) →
          let now := after ttl b' between
          now.cache.faults.get = false → clock now < clock b + ttl →
            lookup ttl key now = (.ok list, (Branch.lists Supply.masterData ttl).hit now)) := by
  obtain ⟨found, es, hread, hmissed, hunwritten⟩ := htroubled.read
  have hsame : answer (withResidents b es) key = answer b key := rfl
  rcases hanswer : answer b key with cause | list
  · rw [lookup_of_failed hread hmissed (hsame.trans hanswer)]
    exact ⟨rfl, rfl, rfl, hunwritten⟩
  rcases hset : b.cache.faults.set with _ | _
  · obtain ⟨es', hlookup, hes⟩ := lookup_of_written hread hmissed hanswer hset hbound
    rw [hlookup]
    refine ⟨rfl, rfl, rfl, Entries.entry?_of_set hes, ?_⟩
    intro hpayable between hloyal now hget hlive
    have hdecode := TextCache.decodeList_encodeList_of_payable hpayable
    -- the list that was written now lasts, whatever others do that do not write another one
    have hlasting : Lasting key list (clock b + ttl) (withResidents (questioned b) es') :=
      ⟨_, rfl, rfl, Nat.le_refl _, Entries.holds_of_set hes⟩
    obtain ⟨e, hkey, htext, hlong, hholds⟩ :=
      hlasting.after (Nat.le_refl _) hdecode hloyal hlive
    exact lookup_of_holds ttl hget hholds hkey (Nat.lt_of_lt_of_le hlive hlong) (htext ▸ hdecode)
  · rw [lookup_of_unwritable hread hmissed (hsame.trans hanswer) hset]
    exact ⟨rfl, rfl, rfl, hunwritten⟩

/-- A text that is no list is replaced by the list of master data. That one is still given when
neither master data nor the cache has answered another lookup meanwhile. -/
theorem lookup_troubled_mended :
    let c : Contribution :=
      { id := "c", period := ⟨2025, 1, by decide, by decide, by decide⟩, rssbNumber := "1",
        matricule := "2", amount := Amount.largest, createdAt := .startOf .epoch,
        updatedAt := .startOf .epoch }
    let b := withResidents (branchTold c) [⟨listKey "1", "not json", 60000⟩]
    let b' := (lookup 60000 "1" b).2
    let now := after 60000 b' [.outage (some (.timeout "master data")), .faults { get := true },
      .lookup "1", .faults {}, .passed 59999]
    (lookup 60000 "1" b).1 = .ok [c] ∧
      lookup 60000 "1" now = (.ok [c], (Branch.lists Supply.masterData 60000).hit now) := by
  intro c b b' now
  have htroubled : Troubled "1" b := by
    refine .inr fun e he ↦ ⟨.serialization (.json .malformed), ?_⟩
    have hentry : resident "1" b = some ⟨listKey "1", "not json", 60000⟩ := rfl
    rw [hentry] at he
    rw [← Option.some.inj he]
    decide +kernel
  have hbound : clock b + 60000 < clockBound := by decide
  obtain ⟨houtcome, -, -, -, hnext⟩ := lookup_troubled hbound htroubled
  have hpayable : ∀ c' ∈ [c], c'.amount.Payable := by decide
  refine ⟨houtcome, hnext hpayable _ ?_ (by decide +kernel) (by decide +kernel)⟩
  -- the one lookup in between cannot read the cache, and master data tells it nothing
  intro earlier later heq
  match earlier with
  | [] => cases heq
  | [_] => cases heq
  | [_, _] =>
    cases heq
    exact fun _ ↦ .inr nofun
  | _ :: _ :: _ :: rest =>
    have hmem : Happening.lookup "1" ∈ [Happening.faults {}, .passed 59999] := by
      rw [(List.cons.inj (List.cons.inj (List.cons.inj heq).2).2).2]
      exact List.mem_append_right _ List.mem_cons_self
    simp at hmem

end ContributionRegistry.Cache
