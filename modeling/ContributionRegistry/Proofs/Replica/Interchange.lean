import ContributionRegistry.Proofs.History
import ContributionRegistry.Proofs.Records.Listings
import ContributionRegistry.Proofs.Replica.Upshots

/-!
# Lookups of different employees

In which order two lookups of different employees take place makes no difference: each comes out as
it would alone, both orders leave the same employees in the replica, and nobody can tell afterwards
which was first (`resolve_interchange`, `Alike.after`).

The employees may stand in another order, and that is all: `Alike`. A shelf shows its records by key
or sorted, so the order does not show (`Shelf.find?_of_perm`, `Shelf.employees_of_perm`).

What a lookup stores has its own key, so it changes nothing that the other looks at; but a search
that is to answer wrongly uses up one of those answers, and if they ran out between the two lookups
the second would not meet what the first would have. They do not when there are none or four, the
most that two lookups can use up.
-/

namespace ContributionRegistry

/-! ### Shelves with the same records -/

namespace Shelf

section

variable {ρ : Type} [Keyed ρ] {s s' : Shelf ρ}

/-- A shelf is searched by key, so the order of its records does not show. -/
theorem find?_of_perm (h : s'.records.Perm s.records) (key : String) :
    s'.find? key = s.find? key := by
  have hfound (t t' : Shelf ρ) (hperm : t'.records.Perm t.records) (r : ρ)
      (hr : t.find? key = some r) : t'.find? key = some r := by
    obtain ⟨hmem, rfl⟩ := find?_eq_some hr
    exact find?_of_mem (hperm.mem_iff.2 hmem)
  exact Option.ext fun r ↦ ⟨hfound s' s h.symm r, hfound s s' h r⟩

/-- Nor does it in a list that is sorted by key. -/
theorem byKey_of_perm (h : s'.records.Perm s.records) : s'.byKey = s.byKey := by
  have hsorted (t : Shelf ρ) :
      t.byKey.Pairwise fun a b ↦ (!decide (Keyed.key b < Keyed.key a)) = true := by
    refine List.pairwise_mergeSort (fun a b c hab hbc ↦ ?_) (fun a b ↦ ?_) t.records
    · simp only [Bool.not_eq_true', decide_eq_false_iff_not, String.not_lt] at hab hbc ⊢
      exact String.le_trans hab hbc
    · simp only [Bool.or_eq_true, Bool.not_eq_true', decide_eq_false_iff_not, String.not_lt]
      exact String.le_total _ _
  have hperm : s'.byKey.Perm s.byKey :=
    (List.mergeSort_perm ..).trans (h.trans (List.mergeSort_perm ..).symm)
  refine hperm.eq_of_pairwise (fun a b ha hb hab hba ↦ ?_) (hsorted s') (hsorted s)
  -- two records that may stand in either order have the same key, and are the same
  simp only [Bool.not_eq_true', decide_eq_false_iff_not, String.not_lt] at hab hba
  have hkey : Keyed.key a = Keyed.key b := String.le_antisymm hab hba
  have ha' : a ∈ s.records := h.mem_iff.1 ((List.mergeSort_perm ..).mem_iff.1 ha)
  have hb' : b ∈ s.records := (List.mergeSort_perm ..).mem_iff.1 hb
  exact Option.some.inj ((find?_of_mem ha').symm.trans (hkey ▸ find?_of_mem hb'))

end

/-- A listing does not show in which order employees came. -/
theorem employees_of_perm {s s' : Shelf Employee} (h : s'.records.Perm s.records) :
    s'.employees = s.employees :=
  congrArg Employee.listing (byKey_of_perm h)

end Shelf

namespace Replica

open Calendar (Timestamp)
open Deployment (Branch)
open SwitchedShelf (worn)

/-! ### Branches that are alike -/

/-- The branch with another shelf for its replica. -/
def withShelf (b : Branch Supply) (shelf : Shelf Employee) : Branch Supply :=
  { b with replica := { b.replica with shelf } }

/-- The branches differ in the order of the employees in their replicas only. -/
def Alike (b b' : Branch Supply) : Prop :=
  ∃ shelf, b' = withShelf b shelf ∧ shelf.records.Perm b.replica.shelf.records

/-- What happens at a branch, as far as its employees are concerned. -/
inductive Happening where
  /-- Somebody looks up an employee. -/
  | lookup (key : String)
  /-- Somebody lists the employees in the replica. -/
  | listing
  /-- Master data tells of another employee from now on. -/
  | served (key : String) (e : RemoteEmployee)
  /-- Master data fails in some way from now on, or answers again. -/
  | outage (cause : Option RemoteError)
  /-- Other calls on the replica fail from now on. -/
  | faults (faults : StoreFaults)
  /-- It is another time of day. -/
  | dated (now : Timestamp)

/-- The branch after something has happened. -/
def step (b : Branch Supply) : Happening → Branch Supply
  | .lookup key => (resolve (Branch.desk Supply.masterData) key b).2
  | .listing => (Branch.employees.all b).2
  | .served key e => { b with supply := b.supply.serveEmployee key e }
  | .outage cause => { b with supply := { b.supply with outage := cause } }
  | .faults faults => { b with replica := { b.replica with faults } }
  | .dated now => { b with now }

/-- The branch after all that has happened. -/
def after (b : Branch Supply) (past : List Happening) : Branch Supply := History.run step b past

section

variable {b b' : Branch Supply}

/-- A lookup does not tell two alike branches apart. -/
theorem Alike.lookup (h : Alike b b') (key : String) :
    (resolve (Branch.desk Supply.masterData) key b').1 =
        (resolve (Branch.desk Supply.masterData) key b).1 ∧
      Alike (resolve (Branch.desk Supply.masterData) key b).2
        (resolve (Branch.desk Supply.masterData) key b').2 := by
  obtain ⟨shelf, rfl, hperm⟩ := h
  have hview : view key (withShelf b shelf) = view key b :=
    congrArg (View.mk · _ _ _) (Shelf.find?_of_perm hperm key)
  obtain ⟨kept, hlookup, hkept⟩ := resolve_eq key b
  obtain ⟨kept', hlookup', hkept'⟩ := resolve_eq key (withShelf b shelf)
  rw [hview] at hlookup' hkept'
  rw [hlookup, hlookup']
  refine ⟨rfl, kept', rfl, ?_⟩
  show kept'.records.Perm kept.records
  rw [hkept, hkept']
  exact hperm.append_right _

theorem Alike.listing (h : Alike b b') :
    (Branch.employees.all b').1 = (Branch.employees.all b).1 ∧
      Alike (Branch.employees.all b).2 (Branch.employees.all b').2 := by
  obtain ⟨shelf, rfl, hperm⟩ := h
  simp only [Branch.employees, SwitchedShelf.list, withShelf, Shelf.employees_of_perm hperm]
  split <;> exact ⟨rfl, shelf, rfl, hperm⟩

/-- **Whatever happens to both leaves them alike.** -/
theorem Alike.step (h : Alike b b') (happening : Happening) :
    Alike (step b happening) (step b' happening) := by
  match happening with
  | .lookup key => exact (h.lookup key).2
  | .listing => exact h.listing.2
  | .served _ _ | .outage _ | .faults _ | .dated _ =>
    obtain ⟨shelf, rfl, hperm⟩ := h
    exact ⟨shelf, rfl, hperm⟩

/-- **Nothing that comes later tells them apart.** -/
theorem Alike.after (h : Alike b b') (future : List Happening) :
    Alike (after b future) (after b' future) :=
  History.run_beside h (fun _ _ happening h ↦ h.step happening) future

theorem Alike.perm (h : Alike b b') :
    b'.replica.shelf.records.Perm b.replica.shelf.records := by
  obtain ⟨shelf, rfl, hperm⟩ := h
  exact hperm

theorem Alike.employeeCalls (h : Alike b b') :
    b'.supply.employeeCalls = b.supply.employeeCalls := by
  obtain ⟨shelf, rfl, -⟩ := h
  rfl

/-! ### Two lookups -/

variable {k₁ k₂ : String}

/-- What a lookup leaves shows the same of other employees, but for wrong answers used up. -/
theorem view_leave (hne : k₁ ≠ k₂) {shelf : Shelf Employee}
    (hkept : shelf.records =
      b.replica.shelf.records ++ (upshot k₁ (view k₁ b)).kept.toList) :
    view k₂ ((upshot k₁ (view k₁ b)).leave b shelf) =
      { view k₂ b with faults := worn b.replica.faults (upshot k₁ (view k₁ b)).finds } := by
  have hthere : shelf.find? k₂ = b.replica.shelf.find? k₂ := by
    have hmodest := (modest_upshot k₁ (view k₁ b)).kept
    rcases hnew : (upshot k₁ (view k₁ b)).kept with _ | e
    · rw [hnew, Option.toList_none, List.append_nil] at hkept
      rw [Shelf.find?, Shelf.find?, hkept]
    · rw [hnew] at hkept
      have hother : Keyed.key e ≠ k₂ := fun hkey ↦ hne ((hmodest e hnew).1.symm.trans hkey)
      rw [Shelf.find?_of_append hkept, if_neg hother, Option.or_none]
  exact congrArg (View.mk · _ _ _) hthere

/-- What two lookups add to the counts can be added in either order. -/
theorem leave_comm (u₁ u₂ : Upshot) (b : Branch Supply) (shelf shelf' : Shelf Employee) :
    u₁.leave (u₂.leave b shelf) shelf' = u₂.leave (u₁.leave b shelf) shelf' := by
  simp only [Upshot.leave, SwitchedShelf.worn_worn, Nat.add_comm, Nat.add_left_comm]

/-- **A lookup after one of another employee** comes to what it comes to without. -/
theorem resolve_after_resolve (hne : k₁ ≠ k₂)
    (hleft : b.replica.faults.hidden = 0 ∨ 4 ≤ b.replica.faults.hidden) :
    ∃ shelf, resolve (Branch.desk Supply.masterData) k₂
        (resolve (Branch.desk Supply.masterData) k₁ b).2 =
          ((upshot k₂ (view k₂ b)).outcome, (upshot k₂ (view k₂ b)).leave
            ((upshot k₁ (view k₁ b)).leave b b.replica.shelf) shelf) ∧
      shelf.records = b.replica.shelf.records ++ (upshot k₁ (view k₁ b)).kept.toList ++
        (upshot k₂ (view k₂ b)).kept.toList := by
  obtain ⟨shelf, hlookup, hkept⟩ := resolve_eq k₁ b
  obtain ⟨shelf', hlookup', hkept'⟩ := resolve_eq k₂ ((upshot k₁ (view k₁ b)).leave b shelf)
  have hfinds := (modest_upshot k₁ (view k₁ b)).finds_le
  -- the first lookup searches twice at most, which leaves enough wrong answers for the second
  have hlast : (view k₂ b).faults.hidden = 0 ∨
      (upshot k₁ (view k₁ b)).finds + 1 < (view k₂ b).faults.hidden :=
    hleft.imp_right fun hfour ↦ Nat.lt_of_lt_of_le (by omega) hfour
  have hsame : upshot k₂ (view k₂ ((upshot k₁ (view k₁ b)).leave b shelf)) =
      upshot k₂ (view k₂ b) := by
    rw [view_leave hne hkept]
    exact upshot_worn k₂ hlast
  rw [hsame] at hlookup' hkept'
  rw [hlookup, hlookup']
  exact ⟨shelf', rfl, hkept ▸ hkept'⟩

/-- **Lookups of different employees can be interchanged**: each comes out as it would come out
first, and the branches left behind are alike. -/
theorem resolve_interchange (hne : k₁ ≠ k₂)
    (hleft : b.replica.faults.hidden = 0 ∨ 4 ≤ b.replica.faults.hidden) :
    let desk := Branch.desk Supply.masterData
    (resolve desk k₂ (resolve desk k₁ b).2).1 = (resolve desk k₂ b).1 ∧
      (resolve desk k₁ (resolve desk k₂ b).2).1 = (resolve desk k₁ b).1 ∧
      Alike (resolve desk k₂ (resolve desk k₁ b).2).2
        (resolve desk k₁ (resolve desk k₂ b).2).2 := by
  intro desk
  obtain ⟨_, hfirst, -⟩ := resolve_eq k₁ b
  obtain ⟨_, hsecond, -⟩ := resolve_eq k₂ b
  obtain ⟨shelf, hboth, hrecords⟩ := resolve_after_resolve hne hleft
  obtain ⟨shelf', hboth', hrecords'⟩ := resolve_after_resolve hne.symm hleft
  rw [hboth, hboth']
  refine ⟨by rw [hsecond], by rw [hfirst], shelf', leave_comm _ _ b _ shelf', ?_⟩
  -- the two new employees come at the end, in one order or the other
  show shelf'.records.Perm shelf.records
  rw [hrecords, hrecords', List.append_assoc, List.append_assoc]
  exact List.perm_append_comm.append_left _

end

end Replica

end ContributionRegistry
