import ContributionRegistry.Records.Order
import ContributionRegistry.Store.Basic
import ContributionRegistry.Store.Shelf

/-!
# What listings contain

A listing has every record of a shelf once, those of employees and employers newest first
(`pairwise_newestFirst`), those of contributions by period and within a period newest first
(`pairwise_listing`). This is what sorting does, given that times are ordered: of two times not both
precede the other, and if one does, then a third time comes after the first or before the second.

Times precede each other as their days do, and within a day as their seconds do; days by year, month
and day. Each of these is an order of the kind that sorting asks for, so `Calendar.Date`,
`Calendar.Timestamp` and `Period` have the same two lemmas: one precedes the other on one side only,
and a third one lies on one of the two sides.

A store whose listings have what it keeps, in order, is said to *list* (`ContributionStore.Lists`).
-/

namespace ContributionRegistry

namespace Calendar

/-! ### Times in order -/

namespace Date

variable {d e f : Date}

theorem precedes_iff (d e : Date) : d.precedes e = true ↔ d.year < e.year ∨
    d.year = e.year ∧ (d.month < e.month ∨ d.month = e.month ∧ d.day < e.day) := by
  simp [precedes]

/-- Not both of two precede each other. -/
theorem precedes_asymm (h : d.precedes e = true) : ¬ e.precedes d = true := by
  rw [precedes_iff] at h ⊢
  omega

/-- Of two different days one precedes the other. -/
theorem precedes_or_eq (d e : Date) : d.precedes e = true ∨ d = e ∨ e.precedes d = true := by
  have hfields : d.year = e.year ∧ d.month = e.month ∧ d.day = e.day → d = e := by
    obtain ⟨year, month, day, hd⟩ := d
    obtain ⟨year', month', day', he⟩ := e
    rintro ⟨rfl, rfl, rfl⟩
    rfl
  rw [precedes_iff, precedes_iff]
  by_cases h : d.year = e.year ∧ d.month = e.month ∧ d.day = e.day
  · exact .inr (.inl (hfields h))
  · omega

/-- A third day comes after the first of two or before the second. -/
theorem precedes_or_precedes (h : d.precedes f = true) (e : Date) :
    d.precedes e = true ∨ e.precedes f = true := by
  rw [precedes_iff] at h
  rw [precedes_iff, precedes_iff]
  omega

end Date

namespace Timestamp

variable {s t u : Timestamp}

/-- The order of times within a day. -/
def EarlierInDay (s t : Timestamp) : Prop :=
  s.minute < t.minute ∨ s.minute = t.minute ∧
    (s.second < t.second ∨ s.second = t.second ∧ s.nanos < t.nanos)

theorem precedes_iff (s t : Timestamp) : s.precedes t = true ↔
    s.date.precedes t.date = true ∨ s.date = t.date ∧ s.EarlierInDay t := by
  simp [precedes, EarlierInDay]

theorem precedes_asymm (h : s.precedes t = true) : ¬ t.precedes s = true := by
  rw [precedes_iff] at h ⊢
  rintro (hdate' | ⟨hdate', hclock'⟩) <;> rcases h with hdate | ⟨hdate, hclock⟩
  · exact Date.precedes_asymm hdate hdate'
  · rw [hdate] at hdate'
    exact Date.precedes_asymm hdate' hdate'
  · rw [hdate'] at hdate
    exact Date.precedes_asymm hdate hdate
  · unfold EarlierInDay at hclock hclock'
    omega

/-- A third time comes after the first of two or before the second. -/
theorem precedes_or_precedes (h : s.precedes u = true) (t : Timestamp) :
    s.precedes t = true ∨ t.precedes u = true := by
  rw [precedes_iff] at h
  rw [precedes_iff, precedes_iff]
  rcases h with hdate | ⟨hdate, hclock⟩
  · rcases Date.precedes_or_precedes hdate t.date with h | h
    · exact .inl (.inl h)
    · exact .inr (.inl h)
  -- the first and the second are of one day, and the third of that day or of another
  · rcases Date.precedes_or_eq s.date t.date with h | h | h
    · exact .inl (.inl h)
    · have hthird : s.EarlierInDay t ∨ t.EarlierInDay u := by
        unfold EarlierInDay at *
        omega
      rcases hthird with hthird | hthird
      · exact .inl (.inr ⟨h, hthird⟩)
      · exact .inr (.inr ⟨h.symm.trans hdate, hthird⟩)
    · exact .inr (.inl (hdate ▸ h))

/-- Of two different times one precedes the other. -/
theorem precedes_or_eq (s t : Timestamp) :
    s.precedes t = true ∨ s = t ∨ t.precedes s = true := by
  have hfields : s.date = t.date ∧ s.minute = t.minute ∧ s.second = t.second ∧
      s.nanos = t.nanos → s = t := by
    obtain ⟨date, minute, second, nanos, -, -, -⟩ := s
    obtain ⟨date', minute', second', nanos', -, -, -⟩ := t
    rintro ⟨rfl, rfl, rfl, rfl⟩
    rfl
  rw [precedes_iff, precedes_iff]
  rcases Date.precedes_or_eq s.date t.date with h | h | h
  · exact .inl (.inl h)
  · by_cases hclock : s.minute = t.minute ∧ s.second = t.second ∧ s.nanos = t.nanos
    · exact .inr (.inl (hfields ⟨h, hclock⟩))
    · have hday : s.EarlierInDay t ∨ t.EarlierInDay s := by
        unfold EarlierInDay
        omega
      rcases hday with hday | hday
      · exact .inl (.inr ⟨h, hday⟩)
      · exact .inr (.inr (.inr ⟨h.symm, hday⟩))
  · exact .inr (.inr (.inl h))

end Timestamp

end Calendar

open Calendar (Timestamp)

namespace Period

variable {p q : Period}

theorem precedes_asymm (h : p.precedes q = true) : ¬ q.precedes p = true := by
  rw [precedes_iff] at h ⊢
  omega

/-- Of two different periods one precedes the other. -/
theorem precedes_or_eq (p q : Period) :
    p.precedes q = true ∨ p = q ∨ q.precedes p = true := by
  have hfields : p.year = q.year ∧ p.month = q.month → p = q := by
    obtain ⟨year, month, _, _, _⟩ := p
    obtain ⟨year', month', _, _, _⟩ := q
    rintro ⟨rfl, rfl⟩
    rfl
  rw [precedes_iff, precedes_iff]
  by_cases h : p.year = q.year ∧ p.month = q.month
  · exact .inr (.inl (hfields h))
  · omega

end Period

/-! ### Sorted by time -/

/-- A listing has one before the other unless it is the older one. -/
theorem newerFirst_iff (s t : Timestamp) : newerFirst s t = true ↔ ¬ s.precedes t = true := by
  simp [newerFirst]

theorem newerFirst_total (s t : Timestamp) : (newerFirst s t || newerFirst t s) = true := by
  rw [Bool.or_eq_true, newerFirst_iff, newerFirst_iff]
  by_cases h : s.precedes t = true
  · exact .inr (Timestamp.precedes_asymm h)
  · exact .inl h

/-- Records that are sorted by their times, newest first, do not get newer. -/
theorem pairwise_newestFirst {ρ : Type} (time : ρ → Timestamp) (rs : List ρ) :
    (rs.mergeSort fun a b ↦ newerFirst (time a) (time b)).Pairwise
      fun a b ↦ ¬ (time a).precedes (time b) = true := by
  have htrans (a b c : ρ) (hab : newerFirst (time a) (time b) = true)
      (hbc : newerFirst (time b) (time c) = true) : newerFirst (time a) (time c) = true := by
    rw [newerFirst_iff] at hab hbc ⊢
    intro hac
    rcases Timestamp.precedes_or_precedes hac (time b) with h | h
    · exact hab h
    · exact hbc h
  have hsorted := List.pairwise_mergeSort htrans (fun a b ↦ newerFirst_total (time a) (time b)) rs
  exact hsorted.imp fun h ↦ (newerFirst_iff ..).1 h

/-! ### Contributions in order -/

namespace Contribution

variable {a b c : Contribution}

/-- Contributions are compared by period and then by time, later ones first. -/
theorem listedBefore_iff (a b : Contribution) : a.listedBefore b = true ↔
    b.period.precedes a.period = true ∨
      ¬ a.period.precedes b.period = true ∧ ¬ a.createdAt.precedes b.createdAt = true := by
  simp [listedBefore, newerFirst]

theorem listedBefore_total (a b : Contribution) :
    (a.listedBefore b || b.listedBefore a) = true := by
  rw [Bool.or_eq_true, listedBefore_iff, listedBefore_iff]
  rcases Period.precedes_or_eq a.period b.period with hperiod | hperiod | hperiod
  · exact .inr (.inl hperiod)
  · have hnot : ¬ b.period.precedes b.period = true := fun h ↦ Period.precedes_asymm h h
    rw [hperiod]
    by_cases h : a.createdAt.precedes b.createdAt = true
    · exact .inr (.inr ⟨hnot, Timestamp.precedes_asymm h⟩)
    · exact .inl (.inr ⟨hnot, h⟩)
  · exact .inl (.inl hperiod)

theorem listedBefore_trans (hab : a.listedBefore b = true) (hbc : b.listedBefore c = true) :
    a.listedBefore c = true := by
  rw [listedBefore_iff, Period.precedes_iff, Period.precedes_iff] at *
  rcases hab with hab | ⟨hab, hnewer⟩ <;> rcases hbc with hbc | ⟨hbc, hnewer'⟩
  · exact .inl (by omega)
  · exact .inl (by omega)
  · exact .inl (by omega)
  · refine .inr ⟨by omega, fun hac ↦ ?_⟩
    rcases Timestamp.precedes_or_precedes hac b.createdAt with h | h
    · exact hnewer h
    · exact hnewer' h

/-- What decides where a contribution stands in a listing. -/
def place (c : Contribution) : Period × Timestamp := (c.period, c.createdAt)

/-- Two contributions that may stand in either order have the same place. -/
theorem place_eq (hab : a.listedBefore b = true) (hba : b.listedBefore a = true) :
    a.place = b.place := by
  rw [listedBefore_iff] at hab hba
  rcases hab with hab | ⟨hab, hnewer⟩ <;> rcases hba with hba | ⟨hba, hnewer'⟩
  · exact absurd hba (Period.precedes_asymm hab)
  · exact absurd hab hba
  · exact absurd hba hab
  · have hperiod := (Period.precedes_or_eq a.period b.period).resolve_left hab
    have htime := (Timestamp.precedes_or_eq a.createdAt b.createdAt).resolve_left hnewer
    rw [place, place, hperiod.resolve_right hba, htime.resolve_right hnewer']

/-- **Contributions are listed** by period and newest first. -/
theorem pairwise_listing (cs : List Contribution) :
    (listing cs).Pairwise fun a b ↦ a.listedBefore b = true := by
  have htrans (a b c : Contribution) (hab : a.listedBefore b = true)
      (hbc : b.listedBefore c = true) : a.listedBefore c = true := listedBefore_trans hab hbc
  exact List.pairwise_mergeSort htrans listedBefore_total cs

/-- The order of a listing is that of the places. -/
theorem map_place_listing_of_perm {cs ds : List Contribution} (h : cs.Perm ds) :
    (listing cs).map place = (listing ds).map place := by
  have hsorted (list : List Contribution) : ((listing list).map place).Pairwise fun x y ↦
      ∃ a b : Contribution, a.place = x ∧ b.place = y ∧ a.listedBefore b = true :=
    List.pairwise_map.2 ((pairwise_listing list).imp fun h ↦ ⟨_, _, rfl, rfl, h⟩)
  have hperm : ((listing cs).map place).Perm ((listing ds).map place) :=
    ((List.mergeSort_perm ..).trans (h.trans (List.mergeSort_perm ..).symm)).map place
  refine hperm.eq_of_pairwise ?_ (hsorted cs) (hsorted ds)
  -- whether one may stand before the other is decided by their places
  have hplace {a b a' b' : Contribution} (ha : a.place = a'.place) (hb : b.place = b'.place) :
      a.listedBefore b = a'.listedBefore b' := by
    obtain ⟨hperiod, htime⟩ := Prod.mk.inj ha
    obtain ⟨hperiod', htime'⟩ := Prod.mk.inj hb
    rw [listedBefore, listedBefore, hperiod, htime, hperiod', htime']
  rintro _ _ - - ⟨a, b, rfl, rfl, hab⟩ ⟨b', a', hb, ha, hba⟩
  exact place_eq hab (hplace hb ha ▸ hba)

end Contribution

/-! ### The listings of a shelf -/

namespace Shelf

theorem perm_employees (s : Shelf Employee) : s.employees.Perm s.records :=
  (List.mergeSort_perm ..).trans (List.mergeSort_perm ..)

theorem perm_employers (s : Shelf Employer) : s.employers.Perm s.records :=
  (List.mergeSort_perm ..).trans (List.mergeSort_perm ..)

/-- A listing of contributions has those that the filter lets through. -/
theorem perm_contributions (s : Shelf Contribution) (filter : ContributionFilter) :
    (s.contributions filter).Perm (s.records.filter filter.matches?) := List.mergeSort_perm ..

theorem pairwise_contributions (s : Shelf Contribution) (filter : ContributionFilter) :
    (s.contributions filter).Pairwise fun a b ↦ a.listedBefore b = true :=
  Contribution.pairwise_listing _

theorem pairwise_employees (s : Shelf Employee) :
    s.employees.Pairwise fun a b ↦ ¬ a.createdAt.precedes b.createdAt = true :=
  pairwise_newestFirst Employee.createdAt s.byKey

theorem pairwise_employers (s : Shelf Employer) :
    s.employers.Pairwise fun a b ↦ ¬ a.createdAt.precedes b.createdAt = true :=
  pairwise_newestFirst Employer.createdAt s.byKey

end Shelf

/-! ### The listings of a store -/

/-- The listings of a store have what it keeps and the filter lets through, in the order of
listings. -/
structure ContributionStore.Lists {σ : Type} (store : ContributionStore σ)
    (kept : σ → List Contribution) : Prop where
  /-- A listing has the selected records, each once. -/
  perm : ∀ filter s list s', store.find filter s = (.ok list, s') →
    list.Perm ((kept s).filter filter.matches?)
  /-- They come in the order of listings. -/
  pairwise : ∀ filter s list s', store.find filter s = (.ok list, s') →
    list.Pairwise fun a b ↦ a.listedBefore b = true

end ContributionRegistry
