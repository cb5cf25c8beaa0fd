import ContributionRegistry.Deployment.Branch
import ContributionRegistry.MasterData.Supply
import ContributionRegistry.Proofs.Cache.Courses
import ContributionRegistry.Proofs.History
import ContributionRegistry.Proofs.Records.ContributionTexts

/-!
# How old a contribution list can be

A branch whose cache starts empty, through any sequence of lookups and of changes around it: what
master data serves, whether it can be reached, which calls on the cache fail, and time. A list that
a lookup gives is either served by master data at that moment, or was served for the same key at an
earlier lookup, less than the time to live ago (`lookup_served_within`).

The reason is that each entry of the cache can be traced to a lookup that was served the list which
the entry's text decodes to (`Traced`). Entries come and go, but they are never rewritten, and a
text that is written for a list decodes to no other list.

What a lookup can do to the branch is worked out in three steps, each of which the later modules use
as well: what the three calls on the cache do to the entries (`get_eq`, `set_eq`, `count_eq`), what
a lookup has done when it has come out (`effect_of_course`), and what any event does
(`step_effect`). The history of a branch is a run of such events (`after`).
-/

namespace ContributionRegistry.Cache

open Deployment (Branch)

/-! ### What the entries hold -/

namespace Entries

variable {es es' : Entries} {now ttl : Nat} {key text : String}

/-- What is found was there and good, and nothing comes in. -/
theorem mem_of_get {found : Option String} (h : es.get now key = (found, es')) :
    (∀ e ∈ es', e ∈ es) ∧
      (found = none ∨ ∃ e ∈ es, e.key = key ∧ now < e.deadline ∧ found = some e.text) := by
  unfold get at h
  split at h
  · cases h
    exact ⟨fun _ he ↦ he, .inl rfl⟩
  · next e hentry =>
    split at h
    · next hlive =>
      cases h
      exact ⟨fun _ he ↦ he, .inr ⟨e, List.mem_of_find?_eq_some hentry,
        by simpa using List.find?_some hentry, by simpa [Entry.live] using hlive, rfl⟩⟩
    · cases h
      exact ⟨fun _ he ↦ (List.mem_filter.1 he).1, .inl rfl⟩

/-- Nothing comes in but what is written, and that unless the clock does not go so far. -/
theorem mem_of_set {done : Option Unit} (h : es.set now key text ttl = (done, es')) :
    (∀ e ∈ es', e ∈ es ∨ e = ⟨key, text, now + ttl⟩) ∧ (done = none → clockBound ≤ now + ttl) := by
  unfold set at h
  split at h
  · cases h
    refine ⟨fun e he ↦ ?_, nofun⟩
    rcases List.mem_append.1 he with he | he
    · exact .inl (List.mem_filter.1 (List.mem_filter.1 he).1).1
    · exact .inr (List.mem_singleton.1 he)
  · next hbound =>
    cases h
    exact ⟨fun e he ↦ .inl (List.mem_filter.1 he).1, fun _ ↦ Nat.le_of_not_lt hbound⟩

theorem mem_of_count (pattern : String) {e : Entry} (h : e ∈ (es.count now pattern).2) : e ∈ es :=
  (List.mem_filter.1 h).1

end Entries

/-! ### What one call does -/

/-- The clock of the cache. -/
def clock (b : Branch Supply) : Nat := b.cache.memory.now

/-- The entries of the cache, expired ones among them. -/
def residents (b : Branch Supply) : Entries := b.cache.memory.entries

/-- How many contribution lists master data has been asked for. -/
def asks (b : Branch Supply) : Nat := b.supply.contributionCalls

/-- What master data answers about contributions. -/
def answer (b : Branch Supply) (key : String) : Except RemoteError (List Contribution) :=
  b.supply.contributionsAnswer key

/-- The branch with other entries in its cache. -/
def withResidents (b : Branch Supply) (es : Entries) : Branch Supply :=
  { b with cache := { b.cache with memory := { b.cache.memory with entries := es } } }

/-- Nothing is different but what the cache holds. -/
def Around (b b' : Branch Supply) : Prop := ∃ es, b' = withResidents b es

/-- What looking up a text does to a branch. -/
theorem get_eq (key : String) (b : Branch Supply) :
    Branch.texts.get key b =
      if b.cache.faults.get then (Attempt.refuse SwitchedCache.fault, b)
      else (.ok ((residents b).get (clock b) key).1,
        withResidents b ((residents b).get (clock b) key).2) := by
  simp only [Branch.texts, Action.within, SwitchedCache.texts, SwitchedCache.guarded]
  split <;> rfl

/-- What storing a text does to a branch. -/
theorem set_eq (key text : String) (ttl : Nat) (b : Branch Supply) :
    Branch.texts.set key text ttl b =
      if b.cache.faults.set then (Attempt.refuse SwitchedCache.fault, b)
      else match (residents b).set (clock b) key text ttl with
        | (some (), es) => (.ok (), withResidents b es)
        | (none, es) => (.error .abandoned, withResidents b es) := by
  simp only [Branch.texts, Action.within, SwitchedCache.texts, SwitchedCache.guarded,
    MemoryCache.texts, residents, clock]
  split
  · rfl
  · rcases b.cache.memory.entries.set b.cache.memory.now key text ttl with ⟨_ | _, es⟩ <;> rfl

/-- What counting keys does to a branch. -/
theorem count_eq (pattern : String) (b : Branch Supply) :
    Branch.texts.count pattern b =
      if b.cache.faults.count then (Attempt.refuse SwitchedCache.fault, b)
      else (.ok ((residents b).count (clock b) pattern).1,
        withResidents b ((residents b).count (clock b) pattern).2) := by
  simp only [Branch.texts, Action.within, SwitchedCache.texts, SwitchedCache.guarded]
  split <;> rfl

/-- A reading gives the list of an entry that is still good, or nothing, or fails. -/
theorem getList_effect {b b' : Branch Supply} {key : String}
    {found : Attempt StoreError (Option (List Contribution))}
    (h : Branch.texts.getList key b = (found, b')) :
    Around b b' ∧ (∀ e ∈ residents b', e ∈ residents b) ∧
      (found = .error (.refused SwitchedCache.fault) ∨ found = .ok none ∨
        ∃ e ∈ residents b, e.key = key ∧ clock b < e.deadline ∧
          found = (TextCache.decodeList e.text).map some) := by
  unfold TextCache.getList Action.next at h
  rw [get_eq] at h
  by_cases hfault : b.cache.faults.get = true
  · rw [if_pos hfault] at h
    cases h
    exact ⟨⟨residents b, rfl⟩, fun _ he ↦ he, .inl rfl⟩
  · rw [if_neg hfault] at h
    rcases hget : (residents b).get (clock b) key with ⟨text, es⟩
    obtain ⟨hmem, htext⟩ := Entries.mem_of_get hget
    rw [hget] at h
    cases h
    refine ⟨⟨es, rfl⟩, hmem, .inr ?_⟩
    rcases htext with rfl | ⟨e, he, hkey, hlive, rfl⟩
    · exact .inl rfl
    · exact .inr ⟨e, he, hkey, hlive, rfl⟩

/-- A writing adds at most the one entry, and is abandoned only beyond the end of the clock. -/
theorem setList_effect {b b' : Branch Supply} {key : String} {list : List Contribution} {ttl : Nat}
    {written : Attempt StoreError Unit}
    (h : Branch.texts.setList key list ttl b = (written, b')) :
    Around b b' ∧
      (∀ e ∈ residents b', e ∈ residents b ∨
        e = ⟨key, TextCache.encodeList list, clock b + ttl⟩) ∧
      (written = .error .abandoned → clockBound ≤ clock b + ttl) := by
  unfold TextCache.setList at h
  rw [set_eq] at h
  split at h
  · cases h
    exact ⟨⟨residents b, rfl⟩, fun _ he ↦ .inl he, nofun⟩
  · rcases hset : (residents b).set (clock b) key (TextCache.encodeList list) ttl with ⟨done, es⟩
    obtain ⟨hmem, hdone⟩ := Entries.mem_of_set hset
    rw [hset] at h
    rcases done with _ | _
    · cases h
      exact ⟨⟨es, rfl⟩, hmem, fun _ ↦ hdone rfl⟩
    · cases h
      exact ⟨⟨es, rfl⟩, hmem, nofun⟩

/-- Asking for the figures only counts keys. -/
theorem stats_state (ttl : Nat) (b : Branch Supply) :
    (stats (Branch.lists Supply.masterData ttl) b).2 =
      (Branch.texts.count (listKeyStart ++ "*") b).2 := by
  unfold stats
  split <;> next hcount => exact (congrArg Prod.snd hcount).symm

/-- The figures leave everything around the cache alone, and nothing comes in. -/
theorem stats_effect (ttl : Nat) (b : Branch Supply) :
    Around b (stats (Branch.lists Supply.masterData ttl) b).2 ∧
      ∀ e ∈ residents (stats (Branch.lists Supply.masterData ttl) b).2, e ∈ residents b := by
  rw [stats_state, count_eq]
  split
  · exact ⟨⟨residents b, rfl⟩, fun _ he ↦ he⟩
  · exact ⟨⟨_, rfl⟩, fun _ he ↦ Entries.mem_of_count (listKeyStart ++ "*") he⟩

/-- A question leaves the cache alone and is answered as master data answers. -/
theorem ask_effect {b b' : Branch Supply} {key : String}
    {told : Attempt RemoteError (List Contribution)}
    (h : (Branch.source Supply.masterData).contributions key b = (told, b')) :
    clock b' = clock b ∧ residents b' = residents b ∧ asks b' = asks b + 1 ∧
      told = Attempt.ofExcept (answer b key) := by
  cases h
  exact ⟨rfl, rfl, rfl, rfl⟩

/-! ### What one lookup does -/

/-- A lookup of contributions at the branch. -/
def lookup (ttl : Nat) (key : String) : Action (Branch Supply) ListError (List Contribution) :=
  fetch (Branch.lists Supply.masterData ttl) key

/-- What the outcome of a lookup says about the branch before it and after it. -/
def Accounted (ttl : Nat) (key : String) (b b' : Branch Supply) :
    Attempt ListError (List Contribution) → Prop
  | .ok list =>
    (asks b' = asks b + 1 ∧ answer b key = .ok list) ∨
      (asks b' = asks b ∧ ∃ e ∈ residents b, e.key = listKey key ∧ clock b < e.deadline ∧
        TextCache.decodeList e.text = .ok list)
  | .error (.refused x) =>
    asks b' = asks b + 1 ∧ Missed (Branch.texts.getList (listKey key) b).1 ∧
      ∃ cause, x = .source cause ∧ answer b key = .error cause
  | .error .abandoned =>
    clockBound ≤ clock b + ttl ∨ ∃ e ∈ residents b, TextCache.decodeList e.text = .error .abandoned

variable {ttl : Nat} {key : String} {b b' : Branch Supply}

/-- What is new in the cache after a lookup is what master data has just answered. -/
structure Filled (ttl : Nat) (key : String) (b b' : Branch Supply) : Prop where
  /-- No time passes in a lookup. -/
  clock : clock b' = clock b
  /-- What is new in the cache is a text of what master data answers, from now on. -/
  residents : ∀ e ∈ residents b', e ∈ residents b ∨ ∃ list, answer b key = .ok list ∧
    asks b' = asks b + 1 ∧ e = ⟨listKey key, TextCache.encodeList list, Cache.clock b + ttl⟩

/-- A miss, then a question to master data. -/
theorem asked_effect {found : Attempt StoreError (Option (List Contribution))}
    {told : Attempt RemoteError (List Contribution)} {b₁ b₂ : Branch Supply}
    (hread : Branch.texts.getList (listKey key) b = (found, b₁))
    (hask : (Branch.source Supply.masterData).contributions key
      ((Branch.lists Supply.masterData ttl).miss b₁) = (told, b₂)) :
    clock b₂ = clock b ∧ (∀ e ∈ residents b₂, e ∈ residents b) ∧ asks b₂ = asks b + 1 ∧
      told = Attempt.ofExcept (answer b key) := by
  obtain ⟨⟨es, rfl⟩, hmem, -⟩ := getList_effect hread
  obtain ⟨hclock, hresidents, hasks, htold⟩ := ask_effect hask
  exact ⟨hclock, hresidents ▸ hmem, hasks, htold⟩

/-- A miss, then an answer from master data, which is to be written. -/
theorem written_effect {found : Attempt StoreError (Option (List Contribution))}
    {list : List Contribution} {written : Attempt StoreError Unit} {b₁ b₂ b₃ : Branch Supply}
    (hread : Branch.texts.getList (listKey key) b = (found, b₁))
    (hask : (Branch.source Supply.masterData).contributions key
      ((Branch.lists Supply.masterData ttl).miss b₁) = (.ok list, b₂))
    (hwrite : Branch.texts.setList (listKey key) list ttl b₂ = (written, b₃)) :
    Filled ttl key b b₃ ∧ asks b₃ = asks b + 1 ∧ answer b key = .ok list ∧
      (written = .error .abandoned → clockBound ≤ clock b + ttl) := by
  obtain ⟨hclock, hmem, hasks, htold⟩ := asked_effect hread hask
  obtain ⟨⟨es, rfl⟩, hnew, hbound⟩ := setList_effect hwrite
  have hanswer : answer b key = .ok list := Attempt.eq_ok_of_ofExcept htold.symm
  refine ⟨⟨hclock, fun e he ↦ ?_⟩, hasks, hanswer, fun h ↦ hclock ▸ hbound h⟩
  rcases hnew e he with he | rfl
  · exact .inl (hmem e he)
  · exact .inr ⟨list, hanswer, hasks, hclock ▸ rfl⟩

/-- **What one lookup does**, whichever course it takes. -/
theorem effect_of_course {outcome : Attempt ListError (List Contribution)}
    (h : Course (Branch.lists Supply.masterData ttl) key b outcome b') :
    Accounted ttl key b b' outcome ∧ Filled ttl key b b' := by
  -- a course gives up after reading, after asking, or after writing; each call has its effect
  cases h with
  | cached hread =>
    obtain ⟨⟨es, rfl⟩, hmem, hfound⟩ := getList_effect hread
    refine ⟨.inr ⟨rfl, ?_⟩, rfl, fun e he ↦ .inl (hmem e he)⟩
    rcases hfound with he | he | ⟨e, he, hkey, hlive, hlist⟩
    · cases he
    · cases he
    · exact ⟨e, he, hkey, hlive, Attempt.eq_ok_of_map_some hlist.symm⟩
  | unread hread =>
    obtain ⟨⟨es, rfl⟩, hmem, hfound⟩ := getList_effect hread
    refine ⟨.inr ?_, rfl, fun e he ↦ .inl (hmem e he)⟩
    rcases hfound with he | he | ⟨e, he, -, -, hlist⟩
    · cases he
    · cases he
    · exact ⟨e, he, Attempt.eq_error_of_map hlist.symm⟩
  | @unanswered found e _ _ hread hmissed hask =>
    obtain ⟨hclock, hmem, hasks, htold⟩ := asked_effect hread hask
    have hfound : (Branch.texts.getList (listKey key) b).1 = found := congrArg Prod.fst hread
    refine ⟨?_, hclock, fun e he ↦ .inl (hmem e he)⟩
    rcases e with x | _
    · exact ⟨hasks, hfound ▸ hmissed, x, rfl, Attempt.eq_error_of_ofExcept htold.symm⟩
    · exact absurd htold.symm (Attempt.ofExcept_ne_abandoned _)
  | fetched hread hmissed hask hwrite hended =>
    obtain ⟨hfilled, hasks, hanswer, -⟩ := written_effect hread hask hwrite
    exact ⟨.inl ⟨hasks, hanswer⟩, hfilled⟩
  | unwritten hread hmissed hask hwrite =>
    obtain ⟨hfilled, -, -, hbound⟩ := written_effect hread hask hwrite
    exact ⟨.inl (hbound rfl), hfilled⟩

/-! ### What happens one after the other -/

/-- What happens at a branch, as far as its contribution lists are concerned. -/
inductive Happening where
  /-- Somebody looks up the contributions for an employee. -/
  | lookup (key : String)
  /-- Somebody asks for the figures about the cache. -/
  | stats
  /-- Master data serves another list from now on. -/
  | served (key : String) (list : List Contribution)
  /-- Master data fails in some way from now on, or answers again. -/
  | outage (cause : Option RemoteError)
  /-- Other calls on the cache fail from now on. -/
  | faults (faults : CacheFaults)
  /-- Time passes. -/
  | passed (span : Nat)

/-- The branch after something has happened. -/
def step (ttl : Nat) (b : Branch Supply) : Happening → Branch Supply
  | .lookup key => (lookup ttl key b).2
  | .stats => (stats (Branch.lists Supply.masterData ttl) b).2
  | .served key list => { b with supply := b.supply.serveContributions key list }
  | .outage cause => { b with supply := { b.supply with outage := cause } }
  | .faults faults => { b with cache := { b.cache with faults } }
  | .passed span => { b with cache := { b.cache with memory := b.cache.memory.advance span } }

/-- The branch after all that has happened. -/
def after (ttl : Nat) (b : Branch Supply) (past : List Happening) : Branch Supply :=
  History.run (step ttl) b past

/-- The branch with nothing in its cache. -/
def emptied (b : Branch Supply) : Branch Supply := withResidents b []

/-- In the past there is a lookup for the key, at that time, which asked master data once and was
answered with the list. -/
def ServedAt (ttl : Nat) (start : Branch Supply) (past : List Happening) (key : String)
    (list : List Contribution) (time : Nat) : Prop :=
  ∃ earlier later, past = earlier ++ .lookup key :: later ∧
    clock (after ttl start earlier) = time ∧
    answer (after ttl start earlier) key = .ok list ∧
    asks (lookup ttl key (after ttl start earlier)).2 = asks (after ttl start earlier) + 1

/-- The entry was written by a lookup of the past, for the list that it was served. -/
def Traced (ttl : Nat) (start : Branch Supply) (past : List Happening) (e : Entry) : Prop :=
  ∃ key list time, e = ⟨listKey key, TextCache.encodeList list, time + ttl⟩ ∧
    time ≤ clock (after ttl start past) ∧ ServedAt ttl start past key list time

/-- Whatever happens, the clock does not go back, and what is new in the cache has been answered to
a lookup. -/
theorem step_effect (ttl : Nat) (b : Branch Supply) (happening : Happening) :
    clock b ≤ clock (step ttl b happening) ∧
      ∀ e ∈ residents (step ttl b happening), e ∈ residents b ∨
        ∃ key list, happening = .lookup key ∧ answer b key = .ok list ∧
          asks (step ttl b happening) = asks b + 1 ∧
          e = ⟨listKey key, TextCache.encodeList list, clock b + ttl⟩ := by
  cases happening with
  | lookup key =>
    obtain ⟨-, hclock, hmem⟩ :=
      effect_of_course (course_fetch (Branch.lists Supply.masterData ttl) key b)
    refine ⟨Nat.le_of_eq hclock.symm, fun e he ↦ ?_⟩
    rcases hmem e he with he | ⟨list, hanswer, hasks, rfl⟩
    · exact .inl he
    · exact .inr ⟨key, list, rfl, hanswer, hasks, rfl⟩
  | stats =>
    obtain ⟨⟨es, hes⟩, hmem⟩ := stats_effect ttl b
    refine ⟨?_, fun e he ↦ .inl (hmem e he)⟩
    rw [step, hes]
    exact Nat.le_refl _
  | served key list => exact ⟨Nat.le_refl _, fun _ he ↦ .inl he⟩
  | outage cause => exact ⟨Nat.le_refl _, fun _ he ↦ .inl he⟩
  | faults faults => exact ⟨Nat.le_refl _, fun _ he ↦ .inl he⟩
  | passed span => exact ⟨Nat.le_add_right _ _, fun _ he ↦ .inl he⟩

section

variable {start : Branch Supply} {past : List Happening} {e : Entry}

theorem ServedAt.later {list : List Contribution} {time : Nat}
    (h : ServedAt ttl start past key list time) (next : Happening) :
    ServedAt ttl start (past ++ [next]) key list time := by
  obtain ⟨earlier, later, rfl, hserved⟩ := h
  exact ⟨earlier, later ++ [next], by simp, hserved⟩

theorem Traced.later (h : Traced ttl start past e) (next : Happening) :
    Traced ttl start (past ++ [next]) e := by
  obtain ⟨key, list, time, rfl, htime, hserved⟩ := h
  have hnext : after ttl start (past ++ [next]) = step ttl (after ttl start past) next :=
    History.run_concat past next
  exact ⟨key, list, time, rfl, hnext ▸ Nat.le_trans htime (step_effect ttl _ next).1,
    hserved.later next⟩

/-- One more event brings in no entry that cannot be traced. -/
theorem traced_concat (h : ∀ e ∈ residents (after ttl start past), Traced ttl start past e)
    (next : Happening) :
    ∀ e ∈ residents (step ttl (after ttl start past) next),
      Traced ttl start (past ++ [next]) e := by
  intro e he
  obtain ⟨hclock, hmem⟩ := step_effect ttl (after ttl start past) next
  have hnext : after ttl start (past ++ [next]) = step ttl (after ttl start past) next :=
    History.run_concat past next
  rcases hmem e he with he | ⟨key, list, rfl, hanswer, hasks, rfl⟩
  · exact (h e he).later next
  -- a new entry is traced to the lookup that has just taken place, with nothing after it
  · exact ⟨key, list, clock (after ttl start past), rfl, hnext ▸ hclock, past, [], rfl, rfl,
      hanswer, hasks⟩

/-- **Every entry can be traced**, whatever has happened since the cache was empty. -/
theorem traced_after (ttl : Nat) (b : Branch Supply) (past : List Happening) :
    ∀ e ∈ residents (after ttl (emptied b) past), Traced ttl (emptied b) past e := by
  refine History.run_induction (step ttl)
    (P := fun past b' ↦ ∀ e ∈ residents b', Traced ttl (emptied b) past e)
    (fun e he ↦ absurd he List.not_mem_nil) ?_ past
  exact fun past next h ↦ traced_concat h next

end

/-- **A list is never older than the time to live.** -/
theorem lookup_served_within (b : Branch Supply) (ttl : Nat) (past : List Happening)
    (key : String) :
    let now := after ttl (emptied b) past
    match (lookup ttl key now).1 with
    | .ok list =>
      (asks (lookup ttl key now).2 = asks now + 1 ∧ answer now key = .ok list) ∨
      (asks (lookup ttl key now).2 = asks now ∧ ∃ time, time ≤ clock now ∧ clock now < time + ttl ∧
        ServedAt ttl (emptied b) past key list time)
    | .error (.refused x) =>
      asks (lookup ttl key now).2 = asks now + 1 ∧
        Missed (Branch.texts.getList (listKey key) now).1 ∧
        ∃ cause, x = .source cause ∧ answer now key = .error cause
    | .error .abandoned => clockBound ≤ clock now + ttl := by
  intro now
  have htraced := traced_after ttl b past
  have haccounted : Accounted ttl key now (lookup ttl key now).2 (lookup ttl key now).1 :=
    (effect_of_course (course_fetch _ key now)).1
  match (lookup ttl key now).1, haccounted with
  | .ok list, .inl h => exact .inl h
  | .ok list, .inr ⟨hasks, e, he, hkey, hlive, hdecode⟩ =>
    obtain ⟨key', list', time, rfl, htime, hserved⟩ := htraced e he
    -- the entry is under one key only, and its text decodes to one list only
    obtain rfl : key' = key := (String.append_right_inj listKeyStart).1 hkey
    obtain rfl : list = list' := TextCache.eq_of_decodeList_encodeList hdecode
    exact .inr ⟨hasks, time, htime, hlive, hserved⟩
  | .error (.refused x), h => exact h
  | .error .abandoned, .inl h => exact h
  | .error .abandoned, .inr ⟨e, he, hdecode⟩ =>
    obtain ⟨key', list', time, rfl, htime, hserved⟩ := htraced e he
    exact absurd hdecode (TextCache.decodeList_encodeList_ne_abandoned list')

end ContributionRegistry.Cache
