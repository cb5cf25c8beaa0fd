import ContributionRegistry.Deployment.Branch
import ContributionRegistry.MasterData.Supply
import ContributionRegistry.Proofs.Replica.Courses
import ContributionRegistry.Proofs.Store.Shelves

/-!
# What a lookup of an employee comes to

A lookup of an employee worked out beforehand (`Upshot`) from what a branch shows of one key
(`View`): who is there under the key, which calls on the replica fail, what master data answers, and
the time of day. That this is what a lookup does, in every state of the branch, is `resolve_eq`; it
says that nothing else of the state has a part in it, which is what two lookups in either order come
down to.

The upshot is put together from the end, as the calls are: what the second search comes to, what
storing comes to, what a question comes to, and then the whole (`upshot`). Each is matched with the
rest of the lookup from there on (`ComesTo`).

A search that is to answer wrongly that there is nobody uses up one of those answers, and a lookup
searches at most twice. Unless they run out meanwhile, a lookup comes to the same after other
searches (`upshot_worn`).
-/

namespace ContributionRegistry

namespace SwitchedShelf

variable {ρ : Type} [Keyed ρ]

/-- What a search shows of what is there. -/
def shown (faults : StoreFaults) (there : Option ρ) : Except StoreError (Option ρ) :=
  if faults.find then .error fault
  else if faults.hidden = 0 then .ok there else .ok none

/-- The switches after a number of searches. -/
def worn (faults : StoreFaults) (searches : Nat) : StoreFaults :=
  { faults with hidden := if faults.find then faults.hidden else faults.hidden - searches }

theorem worn_worn (faults : StoreFaults) (m n : Nat) :
    worn (worn faults m) n = worn faults (m + n) := by
  obtain ⟨find, create, hidden⟩ := faults
  cases find with
  | true => rfl
  | false => exact congrArg (StoreFaults.mk false create) (Nat.sub_sub hidden m n)

omit [Keyed ρ] in
/-- As long as the wrong answers do not run out, it makes no difference how many are left. -/
theorem shown_worn {faults : StoreFaults} {n : Nat}
    (h : faults.hidden = 0 ∨ n < faults.hidden) (there : Option ρ) :
    shown (worn faults n) there = shown faults there := by
  obtain ⟨find, create, hidden⟩ := faults
  cases find with
  | true => rfl
  | false =>
    have hleft : hidden - n = 0 ↔ hidden = 0 := by
      rcases h with h | h <;> simp only at h <;> omega
    simp [shown, worn, hleft]

/-- A search, by what is shown and how it leaves the switches. -/
theorem find_eq (s : SwitchedShelf ρ) (key : String) :
    s.find key = (shown s.faults (s.shelf.find? key),
      { s with finds := s.finds + 1, faults := worn s.faults 1 }) := by
  obtain ⟨shelf, ⟨find, create, hidden⟩, finds, creates⟩ := s
  match find, hidden with
  | true, _ => rfl
  | false, 0 => rfl
  | false, n + 1 => rfl

end SwitchedShelf

namespace Replica

open Calendar (Timestamp)
open Deployment (Branch)
open SwitchedShelf (shown worn)

/-- What a branch shows of one employee. -/
structure View where
  /-- Who is in the replica under the key. -/
  there : Option Employee
  /-- The switches of the replica. -/
  faults : StoreFaults
  /-- What master data would answer. -/
  told : Except RemoteError RemoteEmployee
  /-- The time of day. -/
  now : Timestamp

/-- What the branch shows of the employee with a key. -/
def view (key : String) (b : Branch Supply) : View :=
  ⟨b.replica.shelf.find? key, b.replica.faults, b.supply.employeeAnswer key, b.now⟩

/-! ### Upshots -/

/-- What a lookup comes to: its outcome, how many calls of each kind it makes, and who is stored. -/
structure Upshot where
  /-- What it comes out with. -/
  outcome : Attempt StoreError Resolution
  /-- How often the replica is searched. -/
  finds : Nat
  /-- How often master data is asked. -/
  asks : Nat := 0
  /-- How often somebody is to be stored. -/
  creates : Nat := 0
  /-- Who is stored. -/
  kept : Option Employee := none

/-- What the second search comes to, after a conflict. -/
def rereadingUpshot (key : String) (v : View) : Upshot where
  outcome :=
    match shown (worn v.faults 1) v.there with
    | .ok (some e) => .ok (.synced e)
    | .ok none => .error (.refused (.conflict "employee" key))
    | .error x => .error (.refused x)
  finds := 2
  asks := 1
  creates := 1

/-- What storing comes to. -/
def keepingUpshot (key : String) (v : View) (candidate : Employee) : Upshot :=
  if v.faults.create then
    { outcome := .error (.refused SwitchedShelf.fault), finds := 1, asks := 1, creates := 1 }
  else if v.there.isSome then rereadingUpshot key v
  else
    { outcome := .ok (.synced candidate), finds := 1, asks := 1, creates := 1, kept := candidate }

/-- What a question to master data comes to. -/
def askingUpshot (key : String) (v : View) : Upshot :=
  match v.told with
  | .error x =>
    { outcome := .ok (if x.isNotFound then .notFound else .syncFailed x), finds := 1, asks := 1 }
  | .ok r =>
    if r.rssbNumber = key then keepingUpshot key v (r.adopt v.now)
    else
      { outcome := .ok (.syncFailed (.keyMismatch key r.rssbNumber)), finds := 1, asks := 1 }

/-- What a lookup comes to in a branch that shows this. -/
def upshot (key : String) (v : View) : Upshot :=
  match shown v.faults v.there with
  | .error x => { outcome := .error (.refused x), finds := 1 }
  | .ok (some e) => { outcome := .ok (.found e), finds := 1 }
  | .ok none => askingUpshot key v

/-- At most two searches are made, and nobody is stored but where there was nobody. -/
structure Upshot.Modest (key : String) (v : View) (u : Upshot) : Prop where
  /-- It searches at most twice. -/
  finds_le : u.finds ≤ 2
  /-- Who is stored has the key, and nobody had it. -/
  kept : ∀ e, u.kept = some e → e.rssbNumber = key ∧ v.there = none

section

variable (key : String) (v : View)

theorem modest_rereading : (rereadingUpshot key v).Modest key v where
  finds_le := Nat.le_refl 2
  kept _ he := nomatch he

theorem modest_keeping {candidate : Employee} (hkey : candidate.rssbNumber = key) :
    (keepingUpshot key v candidate).Modest key v := by
  unfold keepingUpshot
  split
  · exact ⟨Nat.le_succ 1, fun _ he ↦ nomatch he⟩
  · split
    · exact modest_rereading key v
    · next hnobody =>
      refine ⟨Nat.le_succ 1, fun e he ↦ ?_⟩
      cases he
      exact ⟨hkey, by simpa using hnobody⟩

theorem modest_asking : (askingUpshot key v).Modest key v := by
  unfold askingUpshot
  split
  · exact ⟨Nat.le_succ 1, fun _ he ↦ nomatch he⟩
  · split
    · next hkey => exact modest_keeping key v hkey
    · exact ⟨Nat.le_succ 1, fun _ he ↦ nomatch he⟩

/-- **A lookup is modest** in what it does. -/
theorem modest_upshot : (upshot key v).Modest key v := by
  unfold upshot
  split
  · exact ⟨Nat.le_succ 1, fun _ he ↦ nomatch he⟩
  · exact ⟨Nat.le_succ 1, fun _ he ↦ nomatch he⟩
  · exact modest_asking key v

end

/-- Unless the wrong answers run out, a lookup comes to the same after other searches. -/
theorem upshot_worn (key : String) {v : View} {n : Nat}
    (h : v.faults.hidden = 0 ∨ n + 1 < v.faults.hidden) :
    upshot key { v with faults := worn v.faults n } = upshot key v := by
  have hfirst : shown (worn v.faults n) v.there = shown v.faults v.there :=
    SwitchedShelf.shown_worn (h.imp_right fun hlt ↦ Nat.lt_of_succ_lt hlt) v.there
  have hsecond : shown (worn (worn v.faults n) 1) v.there = shown (worn v.faults 1) v.there := by
    rw [SwitchedShelf.worn_worn, SwitchedShelf.shown_worn h,
      SwitchedShelf.shown_worn (h.imp_right fun hlt ↦ by omega)]
  have hcreate : (worn v.faults n).create = v.faults.create := rfl
  simp only [upshot, askingUpshot, keepingUpshot, rereadingUpshot, hfirst, hsecond, hcreate]

/-- The branch that an upshot leaves behind, with the shelf that then is its replica. -/
def Upshot.leave (u : Upshot) (b : Branch Supply) (shelf : Shelf Employee) : Branch Supply :=
  { b with
    replica :=
      { shelf, faults := worn b.replica.faults u.finds, finds := b.replica.finds + u.finds
        creates := b.replica.creates + u.creates }
    supply := { b.supply with employeeCalls := b.supply.employeeCalls + u.asks } }

/-! ### From call to call -/

/-- The branch after a search. -/
def searched (b : Branch Supply) : Branch Supply :=
  { b with replica :=
    { b.replica with finds := b.replica.finds + 1, faults := worn b.replica.faults 1 } }

theorem find_branch (key : String) (b : Branch Supply) :
    (Branch.desk Supply.masterData).replica.find key b =
      (Attempt.ofExcept (shown b.replica.faults (b.replica.shelf.find? key)), searched b) := by
  simp only [Branch.desk, Branch.employees, SwitchedShelf.find_eq, searched]

/-- A lookup comes out with what its upshot says, and leaves a shelf with whom it has stored. -/
def ComesTo (u : Upshot) (b : Branch Supply)
    (reached : Attempt StoreError Resolution × Branch Supply) : Prop :=
  ∃ shelf, reached = (u.outcome, u.leave b shelf) ∧
    shelf.records = b.replica.shelf.records ++ u.kept.toList

/-- The branch after a search and a question. -/
def questioned (b : Branch Supply) : Branch Supply :=
  { b with
    replica := { b.replica with finds := b.replica.finds + 1, faults := worn b.replica.faults 1 }
    supply := { b.supply with employeeCalls := b.supply.employeeCalls + 1 } }

/-- The branch after a search, a question and an attempt to store that changed nothing. -/
def refused (b : Branch Supply) : Branch Supply :=
  { questioned b with replica :=
    { (questioned b).replica with creates := b.replica.creates + 1 } }

section

variable (key : String) (b : Branch Supply)

theorem comesTo_rereading :
    ComesTo (rereadingUpshot key (view key b)) b
      (Errand.finish (Branch.desk Supply.masterData) 1
        (.rereading key (.conflict "employee" key)) (refused b)) := by
  have hfind := find_branch key (refused b)
  have hworn : worn (refused b).replica.faults 1 = worn b.replica.faults 2 :=
    SwitchedShelf.worn_worn b.replica.faults 1 1
  rw [searched, hworn] at hfind
  rw [finish_rereading 0 hfind]
  refine ⟨b.replica.shelf, ?_, (List.append_nil _).symm⟩
  simp only [rereadingUpshot, view, refused, questioned]
  rcases shown (worn b.replica.faults 1) (b.replica.shelf.find? key) with x | _ | e
  · rfl
  · rfl
  · rfl

theorem comesTo_keeping {candidate : Employee} (hkey : candidate.rssbNumber = key) :
    ComesTo (keepingUpshot key (view key b) candidate) b
      (Errand.finish (Branch.desk Supply.masterData) 2 (.keeping key candidate)
        (questioned b)) := by
  have hcall (kept : Except StoreError Employee) (replica : SwitchedShelf Employee)
      (h : (questioned b).replica.create candidate = (kept, replica)) :
      (Branch.desk Supply.masterData).replica.create candidate (questioned b) =
        (Attempt.ofExcept kept, { questioned b with replica }) := by
    simp only [Branch.desk, Branch.employees, h]
  unfold keepingUpshot
  rcases (questioned b).replica.create_cases candidate with
    ⟨hfault, hcreate⟩ | ⟨hfault, htaken, hcreate⟩ | ⟨hfault, hfree, shelf, hcreate, hrecords⟩
  · have hfault' : (view key b).faults.create = true := hfault
    rw [finish_keeping 1 (hcall _ _ hcreate), if_pos hfault']
    exact ⟨b.replica.shelf, rfl, (List.append_nil _).symm⟩
  · have hfault' : ¬ (view key b).faults.create = true := Bool.eq_false_iff.1 hfault
    obtain ⟨e, he⟩ := Shelf.taken_iff.1 htaken
    have hthere : (view key b).there = some e := hkey ▸ he
    rw [finish_keeping 1 (hcall _ _ hcreate), if_neg hfault', hthere, if_pos Option.isSome_some]
    have hconflict : Shelf.conflict candidate = .conflict "employee" key :=
      congrArg (StoreError.conflict "employee") hkey
    rw [hconflict]
    exact comesTo_rereading key b
  · have hfault' : ¬ (view key b).faults.create = true := Bool.eq_false_iff.1 hfault
    have hthere : (view key b).there = none := hkey ▸ Shelf.not_taken_iff.1 hfree
    rw [finish_keeping 1 (hcall _ _ hcreate), if_neg hfault', hthere, if_neg nofun]
    exact ⟨shelf, rfl, hrecords⟩

theorem comesTo_asking :
    ComesTo (askingUpshot key (view key b)) b
      (Errand.finish (Branch.desk Supply.masterData) 3 (.asking key) (searched b)) := by
  have hask : (Branch.desk Supply.masterData).source.employee key (searched b) =
      (Attempt.ofExcept (view key b).told, questioned b) := rfl
  rw [finish_asking 2 hask, askingUpshot]
  rcases (view key b).told with x | r
  · exact ⟨b.replica.shelf, rfl, (List.append_nil _).symm⟩
  · by_cases hkey : r.rssbNumber = key
    · have hasked : Errand.asked key ((Branch.desk Supply.masterData).now (questioned b))
          (Attempt.ofExcept (.ok r)) = .keeping key (r.adopt b.now) := if_pos hkey
      rw [hasked]
      simp only [if_pos hkey]
      exact comesTo_keeping key b hkey
    · have hasked : Errand.asked key ((Branch.desk Supply.masterData).now (questioned b))
          (Attempt.ofExcept (.ok r)) =
          .settled (.ok (.syncFailed (.keyMismatch key r.rssbNumber))) := if_neg hkey
      rw [hasked]
      simp only [if_neg hkey]
      exact ⟨b.replica.shelf, rfl, (List.append_nil _).symm⟩

/-- **A lookup comes to its upshot.** -/
theorem resolve_eq :
    ComesTo (upshot key (view key b)) b (resolve (Branch.desk Supply.masterData) key b) := by
  have hfind := find_branch key b
  rw [resolve, finish_searching 3 hfind, upshot]
  have hshown : shown (view key b).faults (view key b).there =
    shown b.replica.faults (b.replica.shelf.find? key) := rfl
  rw [hshown]
  rcases shown b.replica.faults (b.replica.shelf.find? key) with x | _ | e
  · exact ⟨b.replica.shelf, rfl, (List.append_nil _).symm⟩
  · exact comesTo_asking key b
  · exact ⟨b.replica.shelf, rfl, (List.append_nil _).symm⟩

end

end Replica

end ContributionRegistry
