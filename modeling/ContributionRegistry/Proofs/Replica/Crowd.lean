import ContributionRegistry.Deployment.Branch
import ContributionRegistry.MasterData.Supply
import ContributionRegistry.Proofs.History
import ContributionRegistry.Proofs.Store.Shelves

/-!
# Many lookups at once

Any number of lookups at one branch, for any keys. A lookup waits after each of its calls, and the
next turn may be that of any other lookup; between turns the surroundings may change as they like,
so two questions to master data may be answered in different ways. No switch of the replica is on.

Nothing keeps two lookups from carrying different employees under one key to the replica. What saves
them is that the replica takes one employee per key and keeps it: `Sound` says of each point that a
lookup can be waiting at what is known of the replica there, and that stays true while others take
their turns, because the replica only grows (`Sound.mono`).

* **One call.** There is one lemma for each point of a lookup (`search_advanced`, `ask_advanced`,
  `keep_advanced`, `reread_advanced`), and together they say that a call leads from what is known to
  what is known (`Sound.step`).
* **One turn.** A turn is a call of one lookup or a change of the surroundings, and it keeps the
  crowd in order (`InOrder.step`). A lookup whose employee is there before it has searched stays one
  that does not ask (`Late.step`).
* **Any schedule.** Both invariants hold after any turns, and at the end lookups for one key have
  come out with the same employee, who was stored once (`run_agreement`).
-/

namespace ContributionRegistry.Replica

open Calendar (Timestamp)
open Deployment (Branch)

variable {ω : Type}

/-- Lookups at a branch, with a record of their calls. -/
structure Crowd (ω : Type) where
  /-- The branch that they are at. -/
  branch : Branch ω
  /-- The lookups in the order of their arrival, each with the key that it was called with. -/
  visits : List (String × Errand) := []
  /-- Which lookups have asked master data. -/
  asked : List Nat := []
  /-- The employees that lookups have stored. -/
  stored : List Employee := []

/-- What happens next. -/
inductive Turn (ω : Type) where
  /-- Somebody calls for a lookup. -/
  | arrival (key : String)
  /-- A lookup makes its next call. -/
  | call (visit : Nat)
  /-- The surroundings are others now, and it is another time of day. -/
  | surroundings (supply : ω) (now : Timestamp)

namespace Errand

/-- Whether the next call is a question to master data. -/
def asks : Errand → Bool
  | .asking _ => true
  | _ => false

/-- The employee that the next call stores. -/
def stores? {σ : Type} (desk : Desk σ) : Errand → σ → Option Employee
  | .keeping _ candidate, s =>
    match (desk.replica.create candidate s).1 with
    | .ok e => some e
    | .error _ => none
  | _, _ => none

/-- After a call no lookup is about to search for the first time. -/
theorem step_ne_searching {σ : Type} (desk : Desk σ) (errand : Errand) (s : σ) (key : String) :
    (errand.step desk s).1 ≠ .searching key := by
  cases errand with
  | searching k =>
    show searched k _ ≠ _
    unfold searched
    split <;> nofun
  | asking k =>
    show asked k _ _ ≠ _
    unfold asked
    split
    · split <;> nofun
    · nofun
    · nofun
  | keeping k candidate =>
    show kept k _ ≠ _
    unfold kept
    split
    · nofun
    · split <;> nofun
    · nofun
  | rereading k x =>
    show reread x _ ≠ _
    unfold reread
    split <;> nofun
  | settled outcome => nofun

end Errand

namespace Crowd

/-- The employees in the replica. -/
def mirror (c : Crowd ω) : Shelf Employee := c.branch.replica.shelf

/-- A branch with nobody in it, and with these employees in its replica. -/
def opening (mirror : Shelf Employee) (supply : ω) (now : Timestamp) : Crowd ω where
  branch := { now, replica := { shelf := mirror }, supply }

/-- One turn. The turn of a lookup that has not come passes. -/
def step (m : MasterData ω) (c : Crowd ω) : Turn ω → Crowd ω
  | .arrival key => { c with visits := c.visits ++ [(key, .searching key)] }
  | .call visit =>
    match c.visits[visit]? with
    | none => c
    | some (key, errand) =>
      let (errand', branch) := errand.step (Branch.desk m) c.branch
      { branch,
        visits := c.visits.set visit (key, errand')
        asked := if errand.asks then c.asked ++ [visit] else c.asked
        stored := c.stored ++ (errand.stores? (Branch.desk m) c.branch).toList }
  | .surroundings supply now => { c with branch := { c.branch with supply, now } }

/-- Turn after turn. -/
def run (m : MasterData ω) (c : Crowd ω) (turns : List (Turn ω)) : Crowd ω :=
  History.run (step m) c turns

end Crowd

/-! ### One lookup, one call -/

/-- What is known of the replica where a lookup waits. -/
def Sound (mirror : Shelf Employee) (key : String) : Errand → Prop
  | .searching k => k = key
  | .asking k => k = key
  | .keeping k candidate => k = key ∧ candidate.rssbNumber = key
  | .rereading k _ => k = key ∧ mirror.taken key = true
  | .settled (.ok r) => ∀ e, r.employee? = some e → mirror.find? key = some e
  | .settled (.error (.refused _)) => False
  | .settled (.error .abandoned) => True

/-- What is known of the replica stays true while it grows. -/
theorem Sound.mono {mirror mirror' : Shelf Employee} {key : String} {errand : Errand}
    (h : Sound mirror key errand) (hgrown : mirror.records <+: mirror'.records) :
    Sound mirror' key errand := by
  match errand, h with
  | .searching _, h => exact h
  | .asking _, h => exact h
  | .keeping _ _, h => exact h
  | .rereading _ _, h => exact ⟨h.1, Shelf.taken_of_prefix hgrown h.2⟩
  | .settled (.ok _), h => exact fun e he ↦ Shelf.find?_of_prefix hgrown (h e he)
  | .settled (.error .abandoned), _ => trivial

section

variable (m : MasterData ω) {b : Branch ω} {key : String}

/-- What a call of one lookup comes to: what is known of the replica before it, the lookup and the
branch after it, and who was stored. -/
structure Advanced (b b' : Branch ω) (key : String) (errand' : Errand)
    (stored : Option Employee) : Prop where
  /-- The switches are off. -/
  steady : b'.replica.faults = {}
  /-- The replica has what it had, and who was stored. -/
  grown : b'.replica.shelf.records = b.replica.shelf.records ++ stored.toList
  /-- What is known where the lookup waits now is true. -/
  sound : Sound b'.replica.shelf key errand'

theorem find_of_steady (hsteady : b.replica.faults = {}) :
    (Branch.desk m).replica.find key b = (.ok (b.replica.shelf.find? key),
      { b with replica := { b.replica with finds := b.replica.finds + 1 } }) := by
  simp only [Branch.desk, Branch.employees, SwitchedShelf.find_of_steady hsteady]
  rfl

/-- **A search** finds the employee, or leads to a question. -/
theorem search_advanced (hsteady : b.replica.faults = {}) :
    Advanced b ((Errand.searching key).step (Branch.desk m) b).2 key
      ((Errand.searching key).step (Branch.desk m) b).1 none := by
  simp only [Errand.step, find_of_steady m hsteady]
  refine ⟨hsteady, (List.append_nil _).symm, ?_⟩
  cases hfound : b.replica.shelf.find? key with
  | none => rfl
  | some e =>
    rintro _ ⟨⟩
    exact hfound

/-- **A question** leads to an employee to be stored, or nobody is found. -/
theorem ask_advanced (hsteady : b.replica.faults = {}) :
    Advanced b ((Errand.asking key).step (Branch.desk m) b).2 key
      ((Errand.asking key).step (Branch.desk m) b).1 none := by
  rcases hask : m.employee key b.supply with ⟨told, supply⟩
  have hcall : (Branch.desk m).source.employee key b = (told, { b with supply }) := by
    simp only [Branch.desk, Branch.source, Action.within, hask]
  simp only [Errand.step, hcall]
  refine ⟨hsteady, (List.append_nil _).symm, ?_⟩
  rcases told with (x | _) | r
  · rw [Errand.asked]
    split
    · rintro _ ⟨⟩
    · rintro _ ⟨⟩
  · trivial
  · by_cases hkey : r.rssbNumber = key
    · rw [Errand.asked, if_pos hkey]
      exact ⟨rfl, hkey⟩
    · rw [Errand.asked, if_neg hkey]
      rintro _ ⟨⟩

/-- **Storing** puts the employee into the replica, or another one is there already. -/
theorem keep_advanced {candidate : Employee} (hsteady : b.replica.faults = {})
    (hkey : candidate.rssbNumber = key) :
    Advanced b ((Errand.keeping key candidate).step (Branch.desk m) b).2 key
      ((Errand.keeping key candidate).step (Branch.desk m) b).1
      ((Errand.keeping key candidate).stores? (Branch.desk m) b) := by
  have hcall : (Branch.desk m).replica.create candidate b =
      (Attempt.ofExcept (b.replica.shelf.create candidate).1,
        { b with replica := { b.replica with
          shelf := (b.replica.shelf.create candidate).2
          creates := b.replica.creates + 1 } }) := by
    simp only [Branch.desk, Branch.employees, SwitchedShelf.create_of_steady hsteady]
  simp only [Errand.step, Errand.stores?, hcall]
  have hkey' : Keyed.key candidate = key := hkey
  rcases b.replica.shelf.create_cases candidate with
    ⟨htaken, hcreate⟩ | ⟨hfree, shelf, hcreate, hrecords⟩
  · rw [hcreate]
    exact ⟨hsteady, (List.append_nil _).symm, rfl, hkey' ▸ htaken⟩
  · rw [hcreate]
    refine ⟨hsteady, hrecords, ?_⟩
    rintro _ ⟨⟩
    rw [← hkey', Shelf.find?_of_append hrecords, hfree, if_pos rfl, Option.none_or]

/-- **The second search** finds the one that is there. -/
theorem reread_advanced (x : StoreError) (hsteady : b.replica.faults = {})
    (htaken : b.replica.shelf.taken key = true) :
    Advanced b ((Errand.rereading key x).step (Branch.desk m) b).2 key
      ((Errand.rereading key x).step (Branch.desk m) b).1 none := by
  obtain ⟨e, he⟩ := Shelf.taken_iff.1 htaken
  simp only [Errand.step, find_of_steady m hsteady, he]
  refine ⟨hsteady, (List.append_nil _).symm, ?_⟩
  rintro _ ⟨⟩
  exact he

/-- **One call of one lookup**: nothing but what it stores is new in the replica, and what is known
where it waits next is true. -/
theorem Sound.step {errand : Errand} (h : Sound b.replica.shelf key errand)
    (hsteady : b.replica.faults = {}) :
    Advanced b (errand.step (Branch.desk m) b).2 key (errand.step (Branch.desk m) b).1
      (errand.stores? (Branch.desk m) b) := by
  cases errand with
  | searching k =>
    cases h
    exact search_advanced m hsteady
  | asking k =>
    cases h
    exact ask_advanced m hsteady
  | keeping k candidate =>
    obtain ⟨rfl, hkey⟩ := h
    exact keep_advanced m hsteady hkey
  | rereading k x =>
    obtain ⟨rfl, htaken⟩ := h
    exact reread_advanced m x hsteady htaken
  | settled outcome => exact ⟨hsteady, (List.append_nil _).symm, h⟩

end

/-! ### All lookups, turn after turn -/

namespace Crowd

/-- The crowd is in order: everything in the replica was there at the opening or was stored by a
lookup, what is known where a lookup waits is true, and no lookup has asked before it has
searched. -/
structure InOrder (opened : List Employee) (c : Crowd ω) : Prop where
  /-- The switches are off. -/
  steady : c.branch.replica.faults = {}
  /-- The replica has what it had at the opening, and then what was stored. -/
  grown : c.mirror.records = opened ++ c.stored
  /-- What is known where a lookup waits is true. -/
  sound : ∀ v ∈ c.visits, Sound c.mirror v.1 v.2
  /-- A lookup that has asked is past its search. -/
  asked : ∀ i ∈ c.asked, ∃ v, c.visits[i]? = some v ∧ ∀ key, v.2 ≠ .searching key

variable (m : MasterData ω) {opened : List Employee} {c : Crowd ω}

theorem inOrder_opening (mirror : Shelf Employee) (supply : ω) (now : Timestamp) :
    InOrder mirror.records (opening mirror supply now) :=
  ⟨rfl, (List.append_nil _).symm, fun _ hv ↦ absurd hv List.not_mem_nil,
    fun _ hi ↦ absurd hi List.not_mem_nil⟩

theorem step_call {i : Nat} {v : String × Errand} (hv : c.visits[i]? = some v) :
    c.step m (.call i) = {
      branch := (v.2.step (Branch.desk m) c.branch).2
      visits := c.visits.set i (v.1, (v.2.step (Branch.desk m) c.branch).1)
      asked := if v.2.asks then c.asked ++ [i] else c.asked
      stored := c.stored ++ (v.2.stores? (Branch.desk m) c.branch).toList } := by
  simp only [step, hv]

theorem step_call_none {i : Nat} (hv : c.visits[i]? = none) : c.step m (.call i) = c := by
  simp only [step, hv]

theorem stored_prefix_step (turn : Turn ω) : c.stored <+: (step m c turn).stored := by
  unfold step
  split
  · exact List.prefix_rfl
  · split
    · exact List.prefix_rfl
    · exact List.prefix_append _ _
  · exact List.prefix_rfl

/-- A lookup stays where it is in the turns of others. -/
theorem visit_step {i : Nat} {v : String × Errand} {turn : Turn ω} (hv : c.visits[i]? = some v)
    (hturn : turn ≠ .call i) : (c.step m turn).visits[i]? = some v := by
  cases turn with
  | arrival key => exact (List.getElem?_append_left (List.getElem?_eq_some_iff.1 hv).1).trans hv
  | call j =>
    have hji : j ≠ i := fun h ↦ hturn (h ▸ rfl)
    cases hw : c.visits[j]? with
    | none => rwa [step_call_none m hw]
    | some w =>
      rw [step_call m hw]
      exact (List.getElem?_set_ne hji).trans hv
  | surroundings supply now => exact hv

/-- No lookup asks in the turns of others. -/
theorem mem_asked_of_step {i : Nat} {turn : Turn ω} (hi : i ∈ (c.step m turn).asked)
    (hturn : turn ≠ .call i) : i ∈ c.asked := by
  cases turn with
  | arrival key => exact hi
  | call j =>
    have hij : i ≠ j := fun h ↦ hturn (h ▸ rfl)
    cases hw : c.visits[j]? with
    | none => rwa [step_call_none m hw] at hi
    | some w =>
      rw [step_call m hw] at hi
      simp only at hi
      split at hi
      · exact (List.mem_append.1 hi).resolve_right fun h ↦ hij (List.mem_singleton.1 h)
      · exact hi
  | surroundings supply now => exact hi

theorem InOrder.asked_step (h : InOrder opened c) {i : Nat} {turn : Turn ω}
    (hi : i ∈ (c.step m turn).asked) :
    ∃ v, (c.step m turn).visits[i]? = some v ∧ ∀ key, v.2 ≠ .searching key := by
  by_cases hturn : turn = .call i
  · subst hturn
    cases hv : c.visits[i]? with
    | none =>
      rw [step_call_none m hv] at hi ⊢
      exact h.asked i hi
    | some v =>
      have hlt := (List.getElem?_eq_some_iff.1 hv).1
      rw [step_call m hv]
      exact ⟨_, List.getElem?_set_self hlt, Errand.step_ne_searching _ _ _⟩
  · obtain ⟨v, hv, hne⟩ := h.asked i (mem_asked_of_step m hi hturn)
    exact ⟨v, visit_step m hv hturn, hne⟩

/-- A call keeps a crowd in order. -/
theorem InOrder.step_call (h : InOrder opened c) (i : Nat) :
    InOrder opened (c.step m (.call i)) := by
  cases hv : c.visits[i]? with
  | none =>
    rw [Crowd.step_call_none m hv]
    exact h
  | some v =>
    have hasked : ∀ j ∈ (c.step m (.call i)).asked, _ := fun _ hj ↦ h.asked_step m hj
    have hcall := (h.sound v (List.mem_of_getElem? hv)).step m h.steady
    rw [Crowd.step_call m hv] at hasked ⊢
    refine ⟨hcall.steady, ?_, fun w hw ↦ ?_, hasked⟩
    -- the lookup itself has moved on; for all others the replica has only grown
    · exact hcall.grown.trans (by rw [← List.append_assoc, ← h.grown]; rfl)
    · rcases List.mem_or_eq_of_mem_set hw with hw | rfl
      · exact (h.sound w hw).mono ⟨_, hcall.grown.symm⟩
      · exact hcall.sound

/-- **A turn keeps a crowd in order.** -/
theorem InOrder.step (h : InOrder opened c) (turn : Turn ω) : InOrder opened (c.step m turn) := by
  cases turn with
  | arrival key =>
    refine ⟨h.steady, h.grown, fun v hv ↦ ?_, fun _ hi ↦ h.asked_step m hi⟩
    rcases List.mem_append.1 hv with hv | hv
    · exact h.sound v hv
    · rw [List.mem_singleton.1 hv]
      rfl
  | call i => exact h.step_call m i
  | surroundings supply now => exact ⟨h.steady, h.grown, h.sound, h.asked⟩

theorem InOrder.run (h : InOrder opened c) (turns : List (Turn ω)) :
    InOrder opened (c.run m turns) :=
  History.run_keeps h (fun _ turn h ↦ h.step m turn) turns

theorem stored_prefix_run (turns : List (Turn ω)) : c.stored <+: (c.run m turns).stored :=
  History.run_grows (R := fun c c' : Crowd ω ↦ c.stored <+: c'.stored)
    (fun _ ↦ List.prefix_rfl) List.IsPrefix.trans (fun _ ↦ stored_prefix_step m) turns

/-! ### Lookups that come late -/

/-- A lookup whose employee is in the replica already has not asked, and either is about to search
or has come out. -/
structure Late (i : Nat) (key : String) (c : Crowd ω) : Prop where
  /-- The employee is in the replica. -/
  taken : c.mirror.taken key = true
  /-- The lookup is about to search or has come out. -/
  visit : c.visits[i]? = some (key, .searching key) ∨
    ∃ outcome, c.visits[i]? = some (key, .settled outcome)
  /-- It has not asked. -/
  not_asked : i ∉ c.asked

/-- In its own turn a late lookup comes out, if it has not yet, and does not ask. -/
theorem Late.call {i : Nat} {key : String} (h : InOrder opened c) (hl : Late i key c) :
    (∃ outcome, (c.step m (.call i)).visits[i]? = some (key, .settled outcome)) ∧
      i ∉ (c.step m (.call i)).asked := by
  rcases hl.visit with hv | ⟨outcome, hv⟩
  · obtain ⟨e, he⟩ := Shelf.taken_iff.1 hl.taken
    have hfound : ((Errand.searching key).step (Branch.desk m) c.branch).1 =
        .settled (.ok (.found e)) := by
      simp only [Errand.step, find_of_steady m h.steady]
      rw [show c.branch.replica.shelf.find? key = some e from he]
      rfl
    have hlt := (List.getElem?_eq_some_iff.1 hv).1
    rw [step_call m hv]
    refine ⟨⟨.ok (.found e), (List.getElem?_set_self hlt).trans ?_⟩, hl.not_asked⟩
    rw [hfound]
  · have hlt := (List.getElem?_eq_some_iff.1 hv).1
    rw [step_call m hv]
    exact ⟨⟨outcome, List.getElem?_set_self hlt⟩, hl.not_asked⟩

/-- A late lookup stays late in any turn. -/
theorem Late.step {i : Nat} {key : String} (h : InOrder opened c) (hl : Late i key c)
    (turn : Turn ω) : Late i key (c.step m turn) := by
  have htaken : (c.step m turn).mirror.taken key = true := by
    refine Shelf.taken_of_prefix ?_ hl.taken
    rw [h.grown, (h.step m turn).grown, List.prefix_append_right_inj]
    exact stored_prefix_step m turn
  by_cases hturn : turn = .call i
  · subst hturn
    obtain ⟨hvisit, hasked⟩ := hl.call m h
    exact ⟨htaken, .inr hvisit, hasked⟩
  · refine ⟨htaken, ?_, fun hi ↦ hl.not_asked (mem_asked_of_step m hi hturn)⟩
    rcases hl.visit with hv | ⟨outcome, hv⟩
    · exact .inl (visit_step m hv hturn)
    · exact .inr ⟨outcome, visit_step m hv hturn⟩

theorem Late.run {i : Nat} {key : String} (h : InOrder opened c) (hl : Late i key c)
    (turns : List (Turn ω)) : Late i key (c.run m turns) :=
  (History.run_keeps (P := fun c ↦ InOrder opened c ∧ Late i key c) ⟨h, hl⟩
    (fun _ turn ⟨h, hl⟩ ↦ ⟨h.step m turn, hl.step m h turn⟩) turns).2

/-- **Lookups that take turns at one replica** agree, whatever they are told. What is in the replica
stays, with one employee per key; a lookup that comes out with an employee comes out with the one
under its key; a key is stored at most once; no lookup fails over the replica; and nobody asks for
an employee who was in the replica when the lookup came to search for the first time. -/
theorem run_agreement (mirror : Shelf Employee) (supply : ω) (now : Timestamp)
    (past future : List (Turn ω)) :
    let before := (opening mirror supply now).run m past
    let after := before.run m future
    before.mirror.records <+: after.mirror.records ∧
    (after.mirror.records.map Employee.rssbNumber).Nodup ∧
    (∀ key r e, (key, Errand.settled (.ok r)) ∈ after.visits → r.employee? = some e →
      after.mirror.find? key = some e) ∧
    (∀ key, (after.stored.filter fun e ↦ e.rssbNumber == key).length ≤ 1) ∧
    (∀ key x, (key, Errand.settled (.error (.refused x))) ∉ after.visits) ∧
    (∀ i key, before.visits[i]? = some (key, .searching key) →
      before.mirror.taken key = true → i ∉ after.asked) := by
  intro before after
  have hbefore : InOrder mirror.records before := (inOrder_opening mirror supply now).run m past
  have hafter : InOrder mirror.records after := hbefore.run m future
  refine ⟨?_, ?_, fun key r e hv he ↦ hafter.sound _ hv e he, fun key ↦ ?_,
    fun key x hv ↦ hafter.sound _ hv, fun i key hv htaken ↦ ?_⟩
  · rw [hbefore.grown, hafter.grown, List.prefix_append_right_inj]
    exact stored_prefix_run m future
  · exact List.pairwise_map.2 after.mirror.distinct
  -- what lookups have stored is on the shelf, where no two records have one key
  · have hstored : after.stored.Sublist after.mirror.records :=
      hafter.grown ▸ List.sublist_append_right _ _
    exact Nat.le_trans (hstored.filter _).length_le (after.mirror.length_filter_key_le key)
  · refine (Late.run m hbefore ⟨htaken, .inl hv, fun hi ↦ ?_⟩ future).not_asked
    obtain ⟨v, hv', hne⟩ := hbefore.asked i hi
    cases hv.symm.trans hv'
    exact hne key rfl

/-- Two lookups are told of different employees under one key, and both come out with the one that
is stored first, by the second of them. -/
example :
    let knowing (firstname : String) : Supply :=
      Supply.serveEmployee "1" ⟨"a", firstname, "B", "1", .epoch, none, none⟩ {}
    let c := (opening .empty (knowing "A") (.startOf .epoch)).run Supply.masterData
      [.arrival "1", .arrival "1", .call 0, .call 1, .call 0,
        .surroundings (knowing "C") (.startOf .epoch), .call 1, .call 1, .call 0, .call 0]
    c.visits.map (fun
      | (_, .settled (.ok r)) => r.employee?.map Employee.firstname
      | _ => none) = [some "C", some "C"] := by
  decide

end Crowd

end ContributionRegistry.Replica
