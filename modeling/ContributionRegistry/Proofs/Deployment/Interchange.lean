import ContributionRegistry.Proofs.Cache.Interchange
import ContributionRegistry.Proofs.Replica.Interchange

/-!
# Lookups for different employees at a branch

Two lookups at a branch that are for different employees do not get in each other's way, be they
lookups of contributions or of employees: in either order each comes out in the same way, and
whatever is asked of the branch later, it answers the same (`lookups_independent`).

The branch is any, with any switches on and master data in any state. Its cache has at most one
entry under a key, which every call on it keeps, so the branches that can be reached are among them.
One switch is left out: replicas that hide records answer so many lookups wrongly, and which lookups
those are does depend on the order, so the two must both be among them or both come after.

The theorem puts together what is proved of the two kinds apart. A lookup of contributions and one
of employees work on different parts of the branch; for two of one kind the order of entries and
records differs, and being alike takes the place of being equal.
-/

namespace ContributionRegistry.Deployment

open Replica (resolve)

/-- **Lookups for different employees are independent.** After whatever has happened, both orders of
two lookups of contributions give each employee the same answer and leave the same counts, and later
lookups and figures are the same, whatever happens in between. Both orders of two lookups of
employees, at one time of day, come out the same and leave the same employees in the replica, and
later lookups and listings are the same. -/
theorem lookups_independent (ttl : Nat) {k₁ k₂ : String} (hne : k₁ ≠ k₂) (b : Branch Supply)
    (past : List Cache.Happening)
    (hdistinct : ((Cache.residents b).map Cache.Entry.key).Nodup)
    (hleft : b.replica.faults.hidden = 0 ∨ 4 ≤ b.replica.faults.hidden) :
    let lists := Branch.lists Supply.masterData ttl
    let desk := Branch.desk Supply.masterData
    let now := Cache.after ttl b past
    let oneTwo := Cache.lookup ttl k₂ (Cache.lookup ttl k₁ now).2
    let twoOne := Cache.lookup ttl k₁ (Cache.lookup ttl k₂ now).2
    let oneTwo' := resolve desk k₂ (resolve desk k₁ b).2
    let twoOne' := resolve desk k₁ (resolve desk k₂ b).2
    ((Cache.lookup ttl k₁ now).1 = twoOne.1 ∧ oneTwo.1 = (Cache.lookup ttl k₂ now).1 ∧
      oneTwo.2.tally = twoOne.2.tally ∧ Cache.asks oneTwo.2 = Cache.asks twoOne.2 ∧
      ∀ future,
        (∀ key, (Cache.lookup ttl key (Cache.after ttl oneTwo.2 future)).1 =
          (Cache.lookup ttl key (Cache.after ttl twoOne.2 future)).1) ∧
        (Cache.stats lists (Cache.after ttl oneTwo.2 future)).1 =
          (Cache.stats lists (Cache.after ttl twoOne.2 future)).1) ∧
    ((resolve desk k₁ b).1 = twoOne'.1 ∧ oneTwo'.1 = (resolve desk k₂ b).1 ∧
      oneTwo'.2.replica.shelf.records.Perm twoOne'.2.replica.shelf.records ∧
      oneTwo'.2.supply.employeeCalls = twoOne'.2.supply.employeeCalls ∧
      ∀ future,
        (∀ key, (resolve desk key (Replica.after oneTwo'.2 future)).1 =
          (resolve desk key (Replica.after twoOne'.2 future)).1) ∧
        (Branch.employees.all (Replica.after oneTwo'.2 future)).1 =
          (Branch.employees.all (Replica.after twoOne'.2 future)).1) := by
  intro lists desk now oneTwo twoOne oneTwo' twoOne'
  have horderly : Cache.Orderly b := ⟨_, Cache.Entries.reflects_entry? hdistinct _⟩
  -- for the cache and for the replica alike: both orders lead to states that nothing tells apart
  refine ⟨?_, ?_⟩
  · obtain ⟨hsecond, hfirst, halike⟩ := Cache.lookup_interchange hne (horderly.after ttl past)
    obtain ⟨htally, hasks⟩ := halike.counts
    refine ⟨hfirst.symm, hsecond, htally.symm, hasks.symm, fun future ↦ ⟨fun key ↦ ?_, ?_⟩⟩
    · exact ((halike.after ttl future).lookup ttl key).1.symm
    · exact ((halike.after ttl future).stats ttl).1.symm
  · obtain ⟨hsecond, hfirst, halike⟩ := Replica.resolve_interchange hne hleft
    refine ⟨hfirst.symm, hsecond, halike.perm.symm, halike.employeeCalls.symm, fun future ↦
      ⟨fun key ↦ ?_, ?_⟩⟩
    · exact ((halike.after future).lookup key).1.symm
    · exact (halike.after future).listing.1.symm

/-- Two lookups of contributions in a branch whose cache has an expired list for one of them, and
two of employees of whom master data knows one. -/
theorem lookups_independent_expired :
    let c : Contribution :=
      { id := "c", period := ⟨2025, 1, by decide, by decide, by decide⟩, rssbNumber := "1",
        matricule := "2", amount := Amount.largest, createdAt := .startOf .epoch,
        updatedAt := .startOf .epoch }
    let r : RemoteEmployee :=
      { id := "e", firstname := "A", lastname := "B", rssbNumber := "1", dob := .epoch,
        createdAt := none, updatedAt := none }
    let b : Branch Supply :=
      { now := .startOf .epoch, cache := { memory := ⟨99, [⟨Cache.listKey "2", "[]", 100⟩]⟩ }
        supply := { employees := [("1", r)], contributions := [("1", [c])] } }
    let lists := Branch.lists Supply.masterData 60000
    let desk := Branch.desk Supply.masterData
    let now := Cache.after 60000 b [.passed 1]
    (Cache.lookup 60000 "1" (Cache.lookup 60000 "2" now).2).1 = .ok [c] ∧
      (Cache.stats lists (Cache.lookup 60000 "2" (Cache.lookup 60000 "1" now).2).2).1 =
        (Cache.stats lists (Cache.lookup 60000 "1" (Cache.lookup 60000 "2" now).2).2).1 ∧
      (resolve desk "1" (resolve desk "2" b).2).1 = .ok (.synced (r.adopt b.now)) := by
  intro c r b lists desk now
  have hne : "1" ≠ "2" := by decide
  have hdistinct : ((Cache.residents b).map Cache.Entry.key).Nodup := by decide
  obtain ⟨⟨hlist, -, -, -, hlater⟩, hemployee, -⟩ :=
    lookups_independent 60000 hne b [.passed 1] hdistinct (.inl rfl)
  refine ⟨hlist.symm.trans ?_, (hlater []).2, hemployee.symm.trans ?_⟩
  · decide +kernel
  · decide +kernel

end ContributionRegistry.Deployment
