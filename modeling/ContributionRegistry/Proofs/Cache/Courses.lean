import ContributionRegistry.Cache.ContributionLists

/-!
# The courses a lookup of contributions can take

A lookup reads the cache; if that gives no list it asks master data, and keeps what it is told.
`Course` lists the ways through, with the calls made and their answers, and `course_fetch` says that
there are no others. Cache and master data are any.

A list is found in the cache; or the cache has none and master data gives no answer; or master data
answers and the list is written, with whatever success. A cache that has none and one that cannot be
read are alike in this (`Missed`). That the reading or the writing is abandoned are ways of their
own.

Later modules do not unfold the steps of a lookup again. They take the course, case by case.
-/

namespace ContributionRegistry.Cache

variable {σ : Type}

/-- What a lookup takes for a miss: the cache has no list, or fails. -/
def Missed (found : Attempt StoreError (Option (List Contribution))) : Prop :=
  found = .ok none ∨ ∃ x, found = .error (.refused x)

section

variable {found : Attempt StoreError (Option (List Contribution))}

theorem Missed.ne_list (h : Missed found) (list : List Contribution) :
    found ≠ .ok (some list) := by
  rcases h with rfl | ⟨x, rfl⟩ <;> nofun

theorem Missed.ne_abandoned (h : Missed found) : found ≠ .error .abandoned := by
  rcases h with rfl | ⟨x, rfl⟩ <;> nofun

end

/-- The ways through a lookup from a state, with the outcome and the state left behind. -/
inductive Course (d : ListCounter σ) (key : String) (s : σ) :
    Attempt ListError (List Contribution) → σ → Prop where
  /-- The cache has a list. -/
  | cached {list : List Contribution} {s₁ : σ}
      (read : d.cache.getList (listKey key) s = (.ok (some list), s₁)) :
      Course d key s (.ok list) (d.hit s₁)
  /-- The reading is abandoned. -/
  | unread {s₁ : σ} (read : d.cache.getList (listKey key) s = (.error .abandoned, s₁)) :
      Course d key s (.error .abandoned) s₁
  /-- Master data gives no list. -/
  | unanswered {found : Attempt StoreError (Option (List Contribution))} {e : Failure RemoteError}
      {s₁ s₂ : σ} (read : d.cache.getList (listKey key) s = (found, s₁)) (missed : Missed found)
      (ask : d.source.contributions key (d.miss s₁) = (.error e, s₂)) :
      Course d key s (.error (e.map .source)) s₂
  /-- Master data gives a list, which is written to the cache, or cannot be. -/
  | fetched {found : Attempt StoreError (Option (List Contribution))} {list : List Contribution}
      {written : Attempt StoreError Unit} {s₁ s₂ s₃ : σ}
      (read : d.cache.getList (listKey key) s = (found, s₁)) (missed : Missed found)
      (ask : d.source.contributions key (d.miss s₁) = (.ok list, s₂))
      (write : d.cache.setList (listKey key) list d.ttl s₂ = (written, s₃))
      (ended : written ≠ .error .abandoned) : Course d key s (.ok list) s₃
  /-- The writing is abandoned. -/
  | unwritten {found : Attempt StoreError (Option (List Contribution))} {list : List Contribution}
      {s₁ s₂ s₃ : σ} (read : d.cache.getList (listKey key) s = (found, s₁)) (missed : Missed found)
      (ask : d.source.contributions key (d.miss s₁) = (.ok list, s₂))
      (write : d.cache.setList (listKey key) list d.ttl s₂ = (.error .abandoned, s₃)) :
      Course d key s (.error .abandoned) s₃

/-! ### From call to call -/

/-- How a lookup comes out from one of its steps on, as its caller is told. -/
def ending (d : ListCounter σ) (steps : Nat) (lookup : Lookup) :
    Action σ ListError (List Contribution) :=
  Action.finish (Lookup.finish d steps lookup) (Attempt.restate .source)

section

variable {d : ListCounter σ} {key : String} {s s₁ : σ}

/-- A lookup ends as it goes on from its first step. -/
theorem fetch_eq_ending {lookup : Lookup} (h : (Lookup.reading key).step d s = (lookup, s₁)) :
    fetch d key s = ending d 2 lookup s₁ := by
  simp only [fetch, ending, Action.finish, Lookup.finish, h]

/-- After a miss master data is asked. -/
theorem step_of_missed {found : Attempt StoreError (Option (List Contribution))}
    (hread : d.cache.getList (listKey key) s = (found, s₁)) (hmissed : Missed found) :
    (Lookup.reading key).step d s = (.fetching key, d.miss s₁) := by
  rcases hmissed with rfl | ⟨x, rfl⟩ <;> simp only [Lookup.step, hread]

/-- The courses from a miss on. -/
theorem course_of_missed {found : Attempt StoreError (Option (List Contribution))}
    (hread : d.cache.getList (listKey key) s = (found, s₁)) (hmissed : Missed found)
    {o : Attempt ListError (List Contribution) × σ}
    (ho : ending d 2 (.fetching key) (d.miss s₁) = o) : Course d key s o.1 o.2 := by
  rcases hask : d.source.contributions key (d.miss s₁) with ⟨told, s₂⟩
  rcases told with e | list
  · simp only [ending, Action.finish, Lookup.finish, Lookup.step, hask] at ho
    subst ho
    exact .unanswered hread hmissed hask
  · rcases hwrite : d.cache.setList (listKey key) list d.ttl s₂ with ⟨written, s₃⟩
    simp only [ending, Action.finish, Lookup.finish, Lookup.step, hask, hwrite] at ho
    subst ho
    -- a list that cannot be written is given all the same
    rcases written with (x | _) | _
    · exact .fetched hread hmissed hask hwrite nofun
    · exact .unwritten hread hmissed hask hwrite
    · exact .fetched hread hmissed hask hwrite nofun

end

/-- **Every lookup takes one of the courses.** -/
theorem course_fetch (d : ListCounter σ) (key : String) (s : σ) :
    Course d key s (fetch d key s).1 (fetch d key s).2 := by
  rcases hread : d.cache.getList (listKey key) s with ⟨found, s₁⟩
  rcases found with (x | _) | _ | list
  · have hmissed : Missed (.error (.refused x)) := .inr ⟨x, rfl⟩
    exact course_of_missed hread hmissed (fetch_eq_ending (step_of_missed hread hmissed)).symm
  · have hstep : (Lookup.reading key).step d s = (.settled (.error .abandoned), s₁) := by
      simp only [Lookup.step, hread]
    rw [fetch_eq_ending hstep]
    exact .unread hread
  · have hmissed : Missed (.ok none) := .inl rfl
    exact course_of_missed hread hmissed (fetch_eq_ending (step_of_missed hread hmissed)).symm
  · have hstep : (Lookup.reading key).step d s = (.settled (.ok list), d.hit s₁) := by
      simp only [Lookup.step, hread]
    rw [fetch_eq_ending hstep]
    exact .cached hread

end ContributionRegistry.Cache
