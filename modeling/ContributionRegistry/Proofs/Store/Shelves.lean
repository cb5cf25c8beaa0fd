import ContributionRegistry.Store.Switched

/-!
# What a shelf holds

Putting a record on a shelf either appends it or leaves the shelf alone (`Shelf.create_cases`), so a
lookup afterwards finds what it found before, or the new record under its own key
(`Shelf.find?_of_append`). A shelf that others only add to therefore keeps what can be found on it
(`Shelf.find?_of_prefix`).

Behind switches the same holds, but for calls that fail and searches that find nothing: what a
search and what a creation can come to is listed once (`SwitchedShelf.find_effect`,
`SwitchedShelf.create_effect`), with their simpler forms for switches that are off.
-/

namespace ContributionRegistry

variable {ρ : Type} [Keyed ρ]

namespace Shelf

/-- What is found is on the shelf, under its key. -/
theorem find?_eq_some {s : Shelf ρ} {key : String} {r : ρ} (h : s.find? key = some r) :
    r ∈ s.records ∧ Keyed.key r = key :=
  ⟨List.mem_of_find?_eq_some h, by simpa using List.find?_some h⟩

theorem taken_iff {s : Shelf ρ} {key : String} :
    s.taken key = true ↔ ∃ r, s.find? key = some r := by
  rw [← Option.isSome_iff_exists, find?, List.find?_isSome, taken, List.any_eq_true]

theorem not_taken_iff {s : Shelf ρ} {key : String} :
    s.taken key = false ↔ s.find? key = none := by
  rw [Bool.eq_false_iff, ne_eq, taken_iff, not_exists, Option.eq_none_iff_forall_ne_some]

/-- A record is found under its own key. -/
theorem find?_of_mem {s : Shelf ρ} {r : ρ} (h : r ∈ s.records) :
    s.find? (Keyed.key r) = some r := by
  obtain ⟨before, rest, hsplit⟩ := List.append_of_mem h
  have hbefore : ∀ q ∈ before, Keyed.key q ≠ Keyed.key r := by
    have hdistinct := s.distinct
    rw [hsplit, List.pairwise_append] at hdistinct
    exact fun q hq ↦ hdistinct.2.2 q hq r List.mem_cons_self
  rw [find?, hsplit]
  exact List.find?_eq_some_iff_append.2 ⟨beq_self_eq_true _, before, rest, rfl,
    fun q hq ↦ by simpa using hbefore q hq⟩

/-- At most one record has a key. -/
theorem length_filter_key_le (s : Shelf ρ) (key : String) :
    (s.records.filter fun r ↦ Keyed.key r == key).length ≤ 1 := by
  have hdistinct := s.distinct.filter fun r ↦ Keyed.key r == key
  have hkey : ∀ r ∈ s.records.filter fun r ↦ Keyed.key r == key, Keyed.key r = key :=
    fun r hr ↦ by simpa using (List.mem_filter.1 hr).2
  match s.records.filter fun r ↦ Keyed.key r == key, hdistinct, hkey with
  | [], _, _ => exact Nat.zero_le 1
  | [_], _, _ => exact Nat.le_refl 1
  | q :: r :: _, hdistinct, hkey =>
    have hne : Keyed.key q ≠ Keyed.key r := List.rel_of_pairwise_cons hdistinct (by simp)
    exact absurd ((hkey q (by simp)).trans (hkey r (by simp)).symm) hne

/-- What a record that is put on a shelf can come to. -/
theorem create_cases (s : Shelf ρ) (r : ρ) :
    (s.taken (Keyed.key r) = true ∧ s.create r = (.error (conflict r), s)) ∨
    (s.find? (Keyed.key r) = none ∧
      ∃ s', s.create r = (.ok r, s') ∧ s'.records = s.records ++ [r]) := by
  rw [create]
  cases hadd : s.add? r with
  | none => exact .inl ⟨add?_eq_none_iff.1 hadd, rfl⟩
  | some s' =>
    refine .inr ⟨Option.eq_none_iff_forall_ne_some.2 fun q hq ↦ ?_, s', rfl, records_add? hadd⟩
    rw [add?_eq_none_iff.2 (taken_iff.2 ⟨q, hq⟩)] at hadd
    cases hadd

/-- One more record is found under its own key, unless another one is. -/
theorem find?_of_append {s s' : Shelf ρ} {r : ρ} (h : s'.records = s.records ++ [r])
    (key : String) :
    s'.find? key = (s.find? key).or (if Keyed.key r = key then some r else none) := by
  rw [find?, h, List.find?_append, find?]
  by_cases hkey : Keyed.key r = key <;> simp [hkey]

/-- What is found stays found while a shelf grows. -/
theorem find?_of_prefix {s s' : Shelf ρ} (h : s.records <+: s'.records) {key : String} {r : ρ}
    (hr : s.find? key = some r) : s'.find? key = some r := by
  obtain ⟨rest, hrest⟩ := h
  rw [find?] at hr
  rw [find?, ← hrest, List.find?_append, hr, Option.some_or]

theorem taken_of_prefix {s s' : Shelf ρ} (h : s.records <+: s'.records) {key : String}
    (ht : s.taken key = true) : s'.taken key = true := by
  obtain ⟨r, hr⟩ := taken_iff.1 ht
  exact taken_iff.2 ⟨r, find?_of_prefix h hr⟩

end Shelf

namespace SwitchedShelf

/-- A search leaves the records alone, and finds what is there, or nothing, or fails. -/
theorem find_effect {s s' : SwitchedShelf ρ} {key : String} {found : Except StoreError (Option ρ)}
    (h : s.find key = (found, s')) :
    s'.shelf = s.shelf ∧ s'.creates = s.creates ∧
      (found = .error fault ∨ found = .ok none ∨ found = .ok (s.shelf.find? key)) := by
  unfold find at h
  simp only at h
  split at h
  · cases h
    exact ⟨rfl, rfl, .inl rfl⟩
  · split at h
    · cases h
      exact ⟨rfl, rfl, .inr (.inl rfl)⟩
    · cases h
      exact ⟨rfl, rfl, .inr (.inr rfl)⟩

/-- What storing can come to: the switch is on, the key is taken, or the record is put on the
shelf. -/
theorem create_cases (s : SwitchedShelf ρ) (r : ρ) :
    (s.faults.create = true ∧ s.create r = (.error fault, { s with creates := s.creates + 1 })) ∨
    (s.faults.create = false ∧ s.shelf.taken (Keyed.key r) = true ∧
      s.create r = (.error (Shelf.conflict r), { s with creates := s.creates + 1 })) ∨
    (s.faults.create = false ∧ s.shelf.taken (Keyed.key r) = false ∧ ∃ shelf,
      s.create r = (.ok r, { s with shelf, creates := s.creates + 1 }) ∧
        shelf.records = s.shelf.records ++ [r]) := by
  unfold create
  cases hfault : s.faults.create with
  | true => exact .inl ⟨rfl, rfl⟩
  | false =>
    -- with the switch off, storing is putting on the shelf
    rcases s.shelf.create_cases r with ⟨htaken, hcreate⟩ | ⟨hfree, shelf, hcreate, hrecords⟩
    · rw [hcreate]
      exact .inr (.inl ⟨rfl, htaken, rfl⟩)
    · rw [hcreate]
      exact .inr (.inr ⟨rfl, Shelf.not_taken_iff.2 hfree, shelf, rfl, hrecords⟩)

/-- What is to be stored is stored, or refused for a conflict, or storing fails. -/
theorem create_effect {s s' : SwitchedShelf ρ} {r : ρ} {kept : Except StoreError ρ}
    (h : s.create r = (kept, s')) :
    s'.creates = s.creates + 1 ∧
      ((kept = .error fault ∧ s'.shelf = s.shelf) ∨
       (kept = .error (Shelf.conflict r) ∧ s.shelf.taken (Keyed.key r) = true ∧
         s'.shelf = s.shelf) ∨
       (kept = .ok r ∧ s.shelf.find? (Keyed.key r) = none ∧
         s'.shelf.records = s.shelf.records ++ [r])) := by
  rcases s.create_cases r with
    ⟨-, hcreate⟩ | ⟨-, htaken, hcreate⟩ | ⟨-, hfree, shelf, hcreate, hrecords⟩
  · cases h.symm.trans hcreate
    exact ⟨rfl, .inl ⟨rfl, rfl⟩⟩
  · cases h.symm.trans hcreate
    exact ⟨rfl, .inr (.inl ⟨rfl, htaken, rfl⟩)⟩
  · cases h.symm.trans hcreate
    exact ⟨rfl, .inr (.inr ⟨rfl, Shelf.not_taken_iff.1 hfree, hrecords⟩)⟩

/-- With no switch on, a search finds what is there. -/
theorem find_of_steady {s : SwitchedShelf ρ} (h : s.faults = {}) (key : String) :
    s.find key = (.ok (s.shelf.find? key), { s with finds := s.finds + 1 }) := by
  simp [find, h]

/-- With no switch on, storing is putting on the shelf. -/
theorem create_of_steady {s : SwitchedShelf ρ} (h : s.faults = {}) (r : ρ) :
    s.create r = ((s.shelf.create r).1,
      { s with shelf := (s.shelf.create r).2, creates := s.creates + 1 }) := by
  simp [create, h]

end SwitchedShelf

end ContributionRegistry
