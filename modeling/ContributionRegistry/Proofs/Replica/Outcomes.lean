import ContributionRegistry.Deployment.Branch
import ContributionRegistry.MasterData.Supply
import ContributionRegistry.Proofs.Replica.Courses
import ContributionRegistry.Proofs.Store.Shelves

/-!
# What a lookup leaves behind

How a lookup of an employee comes out, and what it has done to the replica, whatever goes wrong on
the way. The branch is in any state at all, so nothing is assumed about what came before, and the
switches of its replica move between the calls (`Unsteady`): each of the calls can fail or answer
wrongly that there is nobody, on its own.

* **What one call does** is said once (`find_effect`, `ask_effect`, `create_effect`). A search and a
  question leave the records alone (`Undisturbed`), and storing adds one or fails.
* **What calls in a row do** follows (`asked_effect`, `kept_effect`, `conflict_effect`), since a
  course of a lookup makes them in this order.
* **What a lookup has done** is to be accounted for by its outcome (`Accounted`): which employee is
  in the replica, whether master data was asked, and for a failure which call failed and with what.
  That every lookup is accounted for is shown course by course (`resolve_outcome`).

A branch whose switches do not move is a case of it (`resolve_unmoved`).
-/

namespace ContributionRegistry.Replica

open Deployment (Branch)

/-- A branch whose replica has its switches moved. -/
structure Unsteady where
  /-- The branch, with the switches as the last call left them. -/
  branch : Branch Supply
  /-- What the switches are set to at the next calls on the replica, one setting for each. When
  there is none left the switches stay as they are. -/
  settings : List StoreFaults

namespace Unsteady

variable {ε α : Type}

/-- The branch as the next call on the replica meets it. -/
def met (u : Unsteady) : Branch Supply :=
  match u.settings with
  | [] => u.branch
  | faults :: _ => { u.branch with replica := { u.branch.replica with faults } }

/-- A call on the replica. -/
def calling (act : Action (Branch Supply) ε α) : Action Unsteady ε α := fun u ↦
  let (outcome, branch) := act u.met
  (outcome, ⟨branch, u.settings.tail⟩)

/-- The replica of the branch. -/
def employees : RecordStore Unsteady Employee where
  find key := calling (Branch.employees.find key)
  all := calling Branch.employees.all
  create e := calling (Branch.employees.create e)

/-- Master data as the branch reaches it. -/
def source : MasterData Unsteady where
  employee key := Action.within branch (fun branch u ↦ { u with branch })
    ((Branch.source Supply.masterData).employee key)
  contributions key := Action.within branch (fun branch u ↦ { u with branch })
    ((Branch.source Supply.masterData).contributions key)

/-- Where employees are looked up. -/
def desk : Desk Unsteady := ⟨employees, source, fun u ↦ u.branch.now⟩

/-- The employees in the replica. -/
def mirror (u : Unsteady) : Shelf Employee := u.branch.replica.shelf

/-- How many employees master data has been asked for. -/
def asks (u : Unsteady) : Nat := u.branch.supply.employeeCalls

/-- How many employees the replica has been given to store. -/
def attempts (u : Unsteady) : Nat := u.branch.replica.creates

/-- What master data answers about an employee. -/
def answer (u : Unsteady) (key : String) : Except RemoteError RemoteEmployee :=
  u.branch.supply.employeeAnswer key

/-! ### Switches that stay -/

/-- Where no settings are left, a call is one on the branch. -/
theorem step_unmoved (errand : Errand) (b : Branch Supply) :
    errand.step desk ⟨b, []⟩ = ((errand.step (Branch.desk Supply.masterData) b).1,
      ⟨(errand.step (Branch.desk Supply.masterData) b).2, []⟩) := by
  cases errand <;> rfl

theorem finish_unmoved (steps : Nat) (errand : Errand) (b : Branch Supply) :
    errand.finish desk steps ⟨b, []⟩ =
      ((errand.finish (Branch.desk Supply.masterData) steps b).1,
        ⟨(errand.finish (Branch.desk Supply.masterData) steps b).2, []⟩) := by
  induction steps generalizing errand b with
  | zero => cases errand <;> rfl
  | succ steps ih =>
    cases errand with
    | settled outcome => rfl
    | _ => simp only [Errand.finish, step_unmoved, ih]

/-- A lookup in a branch whose switches stay is a lookup in the branch. -/
theorem resolve_unmoved (key : String) (b : Branch Supply) :
    resolve desk key ⟨b, []⟩ = ((resolve (Branch.desk Supply.masterData) key b).1,
      ⟨(resolve (Branch.desk Supply.masterData) key b).2, []⟩) :=
  finish_unmoved 4 (.searching key) b

/-! ### What one call does -/

/-- The branch after a call is as before it, but for the switches and for calls that are not counted
here. -/
structure Undisturbed (u u' : Unsteady) : Prop where
  /-- The same employees are in the replica. -/
  mirror : u'.mirror = u.mirror
  /-- Master data was not asked. -/
  asks : u'.asks = u.asks
  /-- Nobody was to be stored. -/
  attempts : u'.attempts = u.attempts
  /-- Master data would answer as before. -/
  answer : u'.answer = u.answer
  /-- No time has passed. -/
  now : u'.branch.now = u.branch.now

variable {u u' u₁ u₂ u₃ : Unsteady} {key : String}

/-- Only the switches are different when a call meets the branch. -/
theorem met_eq (u : Unsteady) :
    ∃ faults, u.met = { u.branch with replica := { u.branch.replica with faults } } := by
  unfold met
  split
  · exact ⟨u.branch.replica.faults, rfl⟩
  · next faults _ _ => exact ⟨faults, rfl⟩

/-- A search changes nothing, and shows what is there, or nothing, or fails. -/
theorem find_effect {found : Attempt StoreError (Option Employee)}
    (h : desk.replica.find key u = (found, u')) :
    Undisturbed u u' ∧ (found = .error (.refused SwitchedShelf.fault) ∨ found = .ok none ∨
      found = .ok (u.mirror.find? key)) := by
  obtain ⟨faults, hmet⟩ := u.met_eq
  rcases hfind : u.met.replica.find key with ⟨shown, replica⟩
  have hcall : desk.replica.find key u =
      (Attempt.ofExcept shown, ⟨{ u.met with replica }, u.settings.tail⟩) := by
    simp only [desk, employees, calling, Branch.employees, hfind]
  obtain ⟨hshelf, hcreates, hshown⟩ := SwitchedShelf.find_effect hfind
  rw [hcall] at h
  cases h
  rw [hmet] at hshelf hcreates hshown ⊢
  refine ⟨⟨hshelf, rfl, hcreates, rfl, rfl⟩, ?_⟩
  rcases hshown with rfl | rfl | rfl
  · exact .inl rfl
  · exact .inr (.inl rfl)
  · exact .inr (.inr rfl)

/-- A search that fails does so by its switch, and changes nothing. -/
theorem find_error {e : Failure StoreError} (h : desk.replica.find key u = (.error e, u')) :
    Undisturbed u u' ∧ e = .refused SwitchedShelf.fault := by
  obtain ⟨hsame, he | he | he⟩ := find_effect h
  · cases he
    exact ⟨hsame, rfl⟩
  · cases he
  · cases he

/-- A search that finds somebody shows who is there, and changes nothing. -/
theorem find_some {e : Employee} (h : desk.replica.find key u = (.ok (some e), u')) :
    Undisturbed u u' ∧ u.mirror.find? key = some e := by
  obtain ⟨hsame, he | he | he⟩ := find_effect h
  · cases he
  · cases he
  · exact ⟨hsame, (Except.ok.inj he).symm⟩

/-- A question is answered as laid down, and leaves the replica alone. -/
theorem ask_effect {told : Attempt RemoteError RemoteEmployee}
    (h : desk.source.employee key u = (told, u')) :
    u'.mirror = u.mirror ∧ u'.asks = u.asks + 1 ∧ u'.attempts = u.attempts ∧
      u'.branch.now = u.branch.now ∧ told = Attempt.ofExcept (u.answer key) := by
  cases h
  exact ⟨rfl, rfl, rfl, rfl, rfl⟩

/-- What is to be stored is stored, or refused for a conflict, or storing fails. -/
theorem create_effect {e : Employee} {kept : Attempt StoreError Employee}
    (h : desk.replica.create e u = (kept, u')) :
    u'.asks = u.asks ∧ u'.attempts = u.attempts + 1 ∧
      ((kept = .error (.refused SwitchedShelf.fault) ∧ u'.mirror = u.mirror) ∨
       (kept = .error (.refused (Shelf.conflict e)) ∧ u.mirror.taken e.rssbNumber = true ∧
         u'.mirror = u.mirror) ∨
       (kept = .ok e ∧ u.mirror.find? e.rssbNumber = none ∧
         u'.mirror.records = u.mirror.records ++ [e])) := by
  obtain ⟨faults, hmet⟩ := u.met_eq
  rcases hcreate : u.met.replica.create e with ⟨outcome, replica⟩
  have hcall : desk.replica.create e u =
      (Attempt.ofExcept outcome, ⟨{ u.met with replica }, u.settings.tail⟩) := by
    simp only [desk, employees, calling, Branch.employees, hcreate]
  obtain ⟨hcreates, houtcome⟩ := SwitchedShelf.create_effect hcreate
  rw [hcall] at h
  cases h
  rw [hmet] at hcreates houtcome ⊢
  refine ⟨rfl, hcreates, ?_⟩
  rcases houtcome with ⟨rfl, hshelf⟩ | ⟨rfl, htaken, hshelf⟩ | ⟨rfl, hfree, hrecords⟩
  · exact .inl ⟨rfl, hshelf⟩
  · exact .inr (.inl ⟨rfl, htaken, hshelf⟩)
  · exact .inr (.inr ⟨rfl, hfree, hrecords⟩)

/-- A vain search, then a question. -/
theorem asked_effect {told : Attempt RemoteError RemoteEmployee}
    (hfind : desk.replica.find key u = (.ok none, u₁))
    (hask : desk.source.employee key u₁ = (told, u₂)) :
    u₂.mirror = u.mirror ∧ u₂.asks = u.asks + 1 ∧ u₂.attempts = u.attempts ∧
      u₂.branch.now = u.branch.now ∧ told = Attempt.ofExcept (u.answer key) := by
  obtain ⟨hsame, -⟩ := find_effect hfind
  obtain ⟨hmirror, hasks, hattempts, hnow, htold⟩ := ask_effect hask
  refine ⟨hmirror.trans hsame.mirror, ?_, hattempts.trans hsame.attempts, hnow.trans hsame.now, ?_⟩
  · rw [hasks, hsame.asks]
  · rw [htold, hsame.answer]

/-- A vain search, then the answer that there is the employee, who is to be stored. -/
theorem kept_effect {r : RemoteEmployee} {kept : Attempt StoreError Employee}
    (hfind : desk.replica.find key u = (.ok none, u₁))
    (hask : desk.source.employee key u₁ = (.ok r, u₂))
    (hcreate : desk.replica.create (r.adopt (desk.now u₂)) u₂ = (kept, u₃)) :
    u.answer key = .ok r ∧ u₃.asks = u.asks + 1 ∧ u₃.attempts = u.attempts + 1 ∧
      ((kept = .error (.refused SwitchedShelf.fault) ∧ u₃.mirror = u.mirror) ∨
       (kept = .error (.refused (.conflict "employee" r.rssbNumber)) ∧
         u.mirror.taken r.rssbNumber = true ∧ u₃.mirror = u.mirror) ∨
       (kept = .ok (r.adopt u.branch.now) ∧ u.mirror.find? r.rssbNumber = none ∧
         u₃.mirror.records = u.mirror.records ++ [r.adopt u.branch.now])) := by
  obtain ⟨hmirror, hasks, hattempts, hnow, htold⟩ := asked_effect hfind hask
  have hnow' : desk.now u₂ = u.branch.now := hnow
  obtain ⟨hasks', hattempts', hkept⟩ := create_effect hcreate
  rw [hmirror, hnow'] at hkept
  exact ⟨Attempt.eq_ok_of_ofExcept htold.symm, hasks'.trans hasks,
    hattempts'.trans (congrArg (· + 1) hattempts), hkept⟩

/-- When storing conflicts, it is because the key is taken: a switch fails with no conflict. -/
theorem conflict_effect {r : RemoteEmployee} {x : StoreError}
    (hfind : desk.replica.find key u = (.ok none, u₁))
    (hask : desk.source.employee key u₁ = (.ok r, u₂))
    (hcreate : desk.replica.create (r.adopt (desk.now u₂)) u₂ = (.error (.refused x), u₃))
    (hconflict : x.isConflict = true) :
    u₃.asks = u.asks + 1 ∧ u₃.attempts = u.attempts + 1 ∧ u₃.mirror = u.mirror ∧
      x = .conflict "employee" r.rssbNumber ∧ u.mirror.taken r.rssbNumber = true := by
  obtain ⟨-, hasks, hattempts, hkept⟩ := kept_effect hfind hask hcreate
  rcases hkept with ⟨he, -⟩ | ⟨he, htaken, hmirror⟩ | ⟨he, -⟩
  · cases he
    cases hconflict
  · cases he
    exact ⟨hasks, hattempts, hmirror, rfl, htaken⟩
  · cases he

/-! ### What a lookup leaves behind -/

/-- What the outcome of a lookup says about the branch before it and after it. The replica is asked
first: whatever comes out but a hit, it has answered that there is nobody, or has failed. -/
def Accounted (key : String) (u u' : Unsteady) : Attempt StoreError Resolution → Prop
  | .ok (.found e) =>
    (desk.replica.find key u).1 = .ok (some e) ∧
      u'.asks = u.asks ∧ u'.attempts = u.attempts ∧ u'.mirror = u.mirror
  | .ok (.synced e) =>
    (desk.replica.find key u).1 = .ok none ∧
      e.rssbNumber = key ∧ u'.asks = u.asks + 1 ∧ u'.attempts = u.attempts + 1 ∧
      u'.mirror.find? key = some e ∧
      (u'.mirror = u.mirror ∨ ∃ r, u.answer key = .ok r ∧ e = r.adopt u.branch.now ∧
        u'.mirror.records = u.mirror.records ++ [e])
  | .ok .notFound =>
    (desk.replica.find key u).1 = .ok none ∧ (∃ url, u.answer key = .error (.status url 404)) ∧
      u'.asks = u.asks + 1 ∧ u'.attempts = u.attempts ∧ u'.mirror = u.mirror
  | .ok (.syncFailed x) =>
    (desk.replica.find key u).1 = .ok none ∧
      ((u.answer key = .error x ∧ x.isNotFound = false) ∨
        ∃ r, u.answer key = .ok r ∧ r.rssbNumber ≠ key ∧ x = .keyMismatch key r.rssbNumber) ∧
      u'.asks = u.asks + 1 ∧ u'.attempts = u.attempts ∧ u'.mirror = u.mirror
  | .error (.refused x) =>
    FailsWith desk key u (.refused x) ∧
      (x = SwitchedShelf.fault ∨ (x = .conflict "employee" key ∧ u.mirror.taken key = true)) ∧
      u'.mirror = u.mirror
  | .error .abandoned => False

/-- **Every course is accounted for.** -/
theorem accounted_of_course {outcome : Attempt StoreError Resolution}
    (h : Course desk key u outcome u') : Accounted key u u' outcome := by
  cases h with
  | unsearched hfind =>
    obtain ⟨hsame, rfl⟩ := find_error hfind
    exact ⟨.search hfind, .inl rfl, hsame.mirror⟩
  | found hfind =>
    have hsame := (find_effect hfind).1
    exact ⟨by rw [hfind], hsame.asks, hsame.attempts, hsame.mirror⟩
  | @refused x _ _ hfind hask =>
    obtain ⟨hmirror, hasks, hattempts, -, htold⟩ := asked_effect hfind hask
    have hanswer : u.answer key = .error x := Attempt.eq_error_of_ofExcept htold.symm
    by_cases hx : x.isNotFound = true
    · obtain ⟨url, rfl⟩ := (RemoteError.isNotFound_iff x).1 hx
      exact ⟨by rw [hfind], ⟨url, hanswer⟩, hasks, hattempts, hmirror⟩
    · rw [if_neg hx]
      exact ⟨by rw [hfind], .inl ⟨hanswer, by simpa using hx⟩, hasks, hattempts, hmirror⟩
  | unanswered hfind hask =>
    obtain ⟨-, -, -, -, htold⟩ := asked_effect hfind hask
    exact absurd htold.symm (Attempt.ofExcept_ne_abandoned _)
  | @mismatched r _ _ hfind hask hne =>
    obtain ⟨hmirror, hasks, hattempts, -, htold⟩ := asked_effect hfind hask
    have hanswer : u.answer key = .ok r := Attempt.eq_ok_of_ofExcept htold.symm
    exact ⟨by rw [hfind], .inr ⟨r, hanswer, hne, rfl⟩, hasks, hattempts, hmirror⟩
  | @stored r e _ _ _ hfind hask hkey hcreate =>
    obtain ⟨hanswer, hasks, hattempts, hkept⟩ := kept_effect hfind hask hcreate
    rcases hkept with ⟨he, -⟩ | ⟨he, -⟩ | ⟨he, hfree, hrecords⟩
    · cases he
    · cases he
    · cases he
      -- what is adopted keeps its key, and under it there was nobody before
      have hkey' : Keyed.key (r.adopt u.branch.now) = key := hkey
      refine ⟨by rw [hfind], hkey, hasks, hattempts, ?_, .inr ⟨r, hanswer, rfl, hrecords⟩⟩
      rw [hkey] at hfree
      rw [Shelf.find?_of_append hrecords, hfree, if_pos hkey', Option.none_or]
  | unstored hfind hask hkey hcreate hreason =>
    obtain ⟨-, -, -, hkept⟩ := kept_effect hfind hask hcreate
    rcases hkept with ⟨he, hmirror⟩ | ⟨he, -⟩ | ⟨he, -⟩
    · cases he
      exact ⟨.store hfind hask hkey hcreate hreason, .inl rfl, hmirror⟩
    · cases he
      exact absurd (hreason _ rfl) (by simp [StoreError.isConflict])
    · cases he
  | overtaken hfind hask hkey hcreate hconflict hagain =>
    obtain ⟨hasks, hattempts, hmirror, -, -⟩ := conflict_effect hfind hask hcreate hconflict
    obtain ⟨hsame, hthere⟩ := find_some hagain
    exact ⟨by rw [hfind], (Shelf.find?_eq_some hthere).2, hsame.asks.trans hasks,
      hsame.attempts.trans hattempts, by rw [hsame.mirror, hthere],
      .inl (hsame.mirror.trans hmirror)⟩
  | vanished hfind hask hkey hcreate hconflict hagain =>
    obtain ⟨-, -, hmirror, rfl, htaken⟩ := conflict_effect hfind hask hcreate hconflict
    have hsame := (find_effect hagain).1
    refine ⟨.conflict hfind hask hkey hcreate hconflict hagain, .inr ?_,
      hsame.mirror.trans hmirror⟩
    rw [hkey] at htaken ⊢
    exact ⟨rfl, htaken⟩
  | unreread hfind hask hkey hcreate hconflict hagain =>
    obtain ⟨-, -, hmirror, -, -⟩ := conflict_effect hfind hask hcreate hconflict
    have hfails := FailsWith.reread hfind hask hkey hcreate hconflict hagain
    obtain ⟨hsame, rfl⟩ := find_error hagain
    exact ⟨hfails, .inl rfl, hsame.mirror.trans hmirror⟩

/-- Whatever a lookup comes to, the replica has at most one employee more, under the key. -/
theorem Accounted.growth {outcome : Attempt StoreError Resolution}
    (h : Accounted key u u' outcome) :
    u'.mirror = u.mirror ∨ ∃ e : Employee, e.rssbNumber = key ∧
      u'.mirror.records = u.mirror.records ++ [e] := by
  match outcome, h with
  | .ok (.found _), h => exact .inl h.2.2.2
  | .ok (.synced e), h =>
    obtain ⟨-, he, -, -, -, hmirror | ⟨r, -, -, hrecords⟩⟩ := h
    · exact .inl hmirror
    · exact .inr ⟨e, he, hrecords⟩
  | .ok .notFound, h => exact .inl h.2.2.2.2
  | .ok (.syncFailed _), h => exact .inl h.2.2.2.2
  | .error (.refused _), h => exact .inl h.2.2

/-- **The outcomes of a lookup**, from any state of the branch and with any moves of the switches.
What was in the replica stays as it was, and no other key is touched. -/
theorem resolve_outcome (key : String) (u : Unsteady) :
    Accounted key u (resolve desk key u).2 (resolve desk key u).1 ∧
      u.mirror.records <+: (resolve desk key u).2.mirror.records ∧
      ∀ k, k ≠ key → (resolve desk key u).2.mirror.find? k = u.mirror.find? k := by
  have h := accounted_of_course (course_resolve desk key u)
  refine ⟨h, ?_⟩
  -- the other keys follow from growth alone, whichever course was taken
  rcases h.growth with hmirror | ⟨e, he, hrecords⟩
  · rw [hmirror]
    exact ⟨List.prefix_rfl, fun _ _ ↦ rfl⟩
  · refine ⟨⟨[e], hrecords.symm⟩, fun k hk ↦ ?_⟩
    have hek : Keyed.key e ≠ k := fun hek ↦ hk (hek.symm.trans he)
    rw [Shelf.find?_of_append hrecords, if_neg hek, Option.or_none]

end Unsteady

end ContributionRegistry.Replica
