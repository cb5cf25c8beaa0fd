import ContributionRegistry.Proofs.Deployment.Offices
import ContributionRegistry.Proofs.Replica.Crowd

/-!
# What a branch shows of its registry

Whatever happens to a registry and a branch of it, the branch has nobody whom the registry does not
have with the same particulars, and what it answers about a key is about the person whom the
registry has under that key (`mirror_faithful`). If registry, network and replica work from the
moment a request comes, the request is answered so.

**Faithfulness.** What carries it is `Known`: what is known where a lookup waits. A call makes it
true of where the lookup waits next (`Known.step`), and everything else leaves it true, because
records are neither changed nor lost (`Known.mono`). It is a part of what holds of an office at all
times (`Faithful`), together with every record of the replica being one of the registry's
(`Mirrored`). There is one lemma for each of the four places where a lookup may wait
(`search_advanced`, `ask_advanced`, `keep_advanced`, `reread_advanced`).

**The converse.** A lookup of somebody the registry has cannot come out with nobody while everything
works (`Due.step`), and each call brings it further, so that it has come out after four of them
(`Faithful.found`). Nothing else that happens in the meantime undoes a call.

A request is either left to itself or interrupted. The two are different statements, and the first
is not a case of the second: what is answered to a request in one go is read off the response, what
is answered to one with interruptions off the visit.
-/

namespace ContributionRegistry.Deployment

open Calendar (Timestamp)
open Http (Request Response Target)
open Registry (Grown Same Sound)
open Replica (Errand Resolution)
open Service
open Web (Url)

/-! ### Persons -/

/-- The same person with the same particulars, whenever the two records were made. -/
structure SamePerson (e m : Employee) : Prop where
  /-- The identifier is the registry's. -/
  id : m.id = e.id
  /-- The first name is the same. -/
  firstname : m.firstname = e.firstname
  /-- The last name is the same. -/
  lastname : m.lastname = e.lastname
  /-- The number is the same. -/
  rssbNumber : m.rssbNumber = e.rssbNumber
  /-- The date of birth is the same. -/
  dob : m.dob = e.dob

/-- Whoever is adopted stays the same person. -/
theorem samePerson_adopt (e : Employee) (now : Timestamp) : SamePerson e (e.told.adopt now) :=
  ⟨rfl, rfl, rfl, rfl, rfl⟩

/-- The registry has the person of a record under the number of the record. -/
def Mirrored (r : Registry) (m : Employee) : Prop :=
  ∃ e, r.employees.shelf.find? m.rssbNumber = some e ∧ SamePerson e m

theorem Mirrored.mono {r r' : Registry} {m : Employee} (h : Mirrored r m) (hgrown : Grown r r') :
    Mirrored r' m := by
  obtain ⟨e, hfound, hsame⟩ := h
  exact ⟨e, Shelf.find?_of_prefix hgrown.employees hfound, hsame⟩

/-! ### One lookup, one call -/

/-- What is known of registry and replica where a lookup waits. -/
def Known (r : Registry) (mirror : Shelf Employee) (key : String) : Errand → Prop
  | .searching k | .asking k => k = key
  | .keeping k candidate => k = key ∧ candidate.rssbNumber = key ∧ Mirrored r candidate
  | .rereading k _ => k = key ∧ mirror.taken key = true
  | .settled outcome =>
    ∀ found e, outcome = .ok found → found.employee? = some e → mirror.find? key = some e

/-- What is known stays true while registry and replica grow. -/
theorem Known.mono {r r' : Registry} {mirror mirror' : Shelf Employee} {key : String}
    {errand : Errand} (h : Known r mirror key errand) (hregistry : Grown r r')
    (hmirror : mirror.records <+: mirror'.records) : Known r' mirror' key errand := by
  cases errand with
  | searching k => exact h
  | asking k => exact h
  | keeping k candidate => exact ⟨h.1, h.2.1, h.2.2.mono hregistry⟩
  | rereading k x => exact ⟨h.1, Shelf.taken_of_prefix hmirror h.2⟩
  | settled outcome =>
    exact fun found e hok he ↦ Shelf.find?_of_prefix hmirror (h found e hok he)

/-- What a call of a lookup leaves behind: the registry has the same records, the replica has the
same or one that the registry has too, and what is known where the lookup waits next is true. -/
structure Advanced (p p' : Pair) (key : String) (errand' : Errand) : Prop where
  /-- The registry has the records it had. -/
  registry : Same p.supply.registry p'.supply.registry
  /-- The replica has at most one record more, of a person whom the registry has. -/
  mirror : p'.replica.shelf = p.replica.shelf ∨ ∃ m, Mirrored p.supply.registry m ∧
    p'.replica.shelf.records = p.replica.shelf.records ++ [m]
  /-- What is known where the lookup waits now is true. -/
  known : Known p'.supply.registry p'.replica.shelf key errand'

section

variable {base : Url} {p : Pair} {key : String}

/-- A search in the replica. -/
theorem search_effect (base : Url) (key : String) (p : Pair) : ∃ found replica,
    (Branch.desk (Pair.masterData base)).replica.find key p = (Attempt.ofExcept found,
      { p with replica }) ∧
    replica.shelf = p.replica.shelf ∧
    ∀ e, found = .ok (some e) → p.replica.shelf.find? key = some e := by
  rcases hfind : p.replica.find key with ⟨found, replica⟩
  obtain ⟨hshelf, -, hfound⟩ := SwitchedShelf.find_effect hfind
  refine ⟨found, replica, ?_, hshelf, fun e he ↦ ?_⟩
  · simp only [Branch.desk, Branch.employees, hfind]
  · subst he
    rcases hfound with heq | heq | heq
    · cases heq
    · cases heq
    · exact (Except.ok.inj heq).symm

/-- The call of a lookup that searches. -/
theorem search_advanced : Advanced p
    ((Errand.searching key).step (Branch.desk (Pair.masterData base)) p).2 key
    ((Errand.searching key).step (Branch.desk (Pair.masterData base)) p).1 := by
  obtain ⟨found, replica, hcall, hshelf, hfound⟩ := search_effect base key p
  simp only [Errand.step, hcall]
  refine ⟨Same.refl _, .inl hshelf, ?_⟩
  rcases found with x | _ | e
  · rintro found e ⟨⟩
  · rfl
  · rintro found e ⟨⟩ ⟨⟩
    rw [hshelf]
    exact hfound e rfl

/-- The call of a lookup that asks. -/
theorem ask_advanced (hroot : base.trunk = []) (hquery : base.query.getD [] = []) : Advanced p
    ((Errand.asking key).step (Branch.desk (Pair.masterData base)) p).2 key
    ((Errand.asking key).step (Branch.desk (Pair.masterData base)) p).1 := by
  rcases hask : (Pair.masterData base).employee key p.supply with ⟨told, supply⟩
  have hcall : (Branch.desk (Pair.masterData base)).source.employee key p =
      (told, { p with supply }) := by
    simp only [Branch.desk, Branch.source, Action.within, hask]
  have hsame : Same p.supply.registry supply.registry := by
    have hunchanged := Line.unchanged_fetch RemoteEmployee.ofJson (Endpoint.employee base key).text
      (Endpoint.employee base key) p.supply
    rw [show Client.fetch Line.network _ _ _ p.supply = (told, supply) from hask] at hunchanged
    exact hunchanged.registry
  simp only [Errand.step, hcall]
  refine ⟨hsame, .inl rfl, ?_⟩
  rcases told with (x | _) | told
  · rintro found e ⟨⟩ he
    split at he <;> cases he
  · rintro found e ⟨⟩
  · obtain ⟨e, hfound, rfl⟩ := Line.employee_of_told hroot hquery hask
    by_cases hkey : e.told.rssbNumber = key
    · rw [Errand.asked, if_pos hkey]
      exact ⟨rfl, hkey, Mirrored.mono ⟨e, hfound, samePerson_adopt e _⟩ hsame.grown⟩
    · rw [Errand.asked, if_neg hkey]
      rintro found e ⟨⟩ ⟨⟩

/-- The call of a lookup that keeps. -/
theorem keep_advanced {candidate : Employee} (hkey : candidate.rssbNumber = key)
    (hmirrored : Mirrored p.supply.registry candidate) : Advanced p
    ((Errand.keeping key candidate).step (Branch.desk (Pair.masterData base)) p).2 key
    ((Errand.keeping key candidate).step (Branch.desk (Pair.masterData base)) p).1 := by
  rcases hcreate : p.replica.create candidate with ⟨kept, replica⟩
  have hcall : (Branch.desk (Pair.masterData base)).replica.create candidate p =
      (Attempt.ofExcept kept, { p with replica }) := by
    simp only [Branch.desk, Branch.employees, hcreate]
  have hkey' : Keyed.key candidate = key := hkey
  simp only [Errand.step, hcall]
  obtain ⟨-, ⟨rfl, hshelf⟩ | ⟨rfl, htaken, hshelf⟩ | ⟨rfl, hfree, hrecords⟩⟩ :=
    SwitchedShelf.create_effect hcreate
  · refine ⟨Same.refl _, .inl hshelf, ?_⟩
    rintro found e ⟨⟩
  · refine ⟨Same.refl _, .inl hshelf, rfl, ?_⟩
    rw [hshelf, ← hkey', htaken]
  · refine ⟨Same.refl _, .inr ⟨candidate, hmirrored, hrecords⟩, ?_⟩
    rintro found e ⟨⟩ ⟨⟩
    rw [← hkey', Shelf.find?_of_append hrecords, hfree, if_pos rfl, Option.none_or]

/-- The call of a lookup that looks a second time. -/
theorem reread_advanced (failure : StoreError) : Advanced p
    ((Errand.rereading key failure).step (Branch.desk (Pair.masterData base)) p).2 key
    ((Errand.rereading key failure).step (Branch.desk (Pair.masterData base)) p).1 := by
  obtain ⟨found, replica, hcall, hshelf, hfound⟩ := search_effect base key p
  simp only [Errand.step, hcall]
  refine ⟨Same.refl _, .inl hshelf, ?_⟩
  rcases found with x | _ | e
  · rintro found e ⟨⟩
  · rintro found e ⟨⟩
  · rintro found e ⟨⟩ ⟨⟩
    rw [hshelf]
    exact hfound e rfl

/-- **One call of one lookup**, whichever switches are on and whether or not the network is cut. -/
theorem Known.step (hroot : base.trunk = []) (hquery : base.query.getD [] = []) {errand : Errand}
    (h : Known p.supply.registry p.replica.shelf key errand) :
    Advanced p (errand.step (Branch.desk (Pair.masterData base)) p).2 key
      (errand.step (Branch.desk (Pair.masterData base)) p).1 := by
  cases errand with
  | searching k =>
    cases h
    exact search_advanced
  | asking k =>
    cases h
    exact ask_advanced hroot hquery
  | keeping k candidate =>
    obtain ⟨rfl, hkey, hmirrored⟩ := h
    exact keep_advanced hkey hmirrored
  | rereading k failure =>
    obtain ⟨rfl, -⟩ := h
    exact reread_advanced failure
  | settled outcome => exact ⟨Same.refl _, .inl rfl, h⟩

/-- The replica after a call has nobody whom the registry does not have. -/
theorem Advanced.mirrored {p' : Pair} {errand' : Errand} (h : Advanced p p' key errand')
    (hmirrored : ∀ m ∈ p.replica.shelf.records, Mirrored p.supply.registry m) :
    ∀ m ∈ p'.replica.shelf.records, Mirrored p'.supply.registry m := by
  intro m hm
  refine Mirrored.mono ?_ h.registry.grown
  rcases h.mirror with hshelf | ⟨new, hnew, hrecords⟩
  · exact hmirrored m (hshelf ▸ hm)
  · rw [hrecords] at hm
    rcases List.mem_append.1 hm with hm | hm
    · exact hmirrored m hm
    · rwa [List.mem_singleton.1 hm]

/-- The replica loses nobody in a call. -/
theorem Advanced.grown {p' : Pair} {errand' : Errand} (h : Advanced p p' key errand') :
    p.replica.shelf.records <+: p'.replica.shelf.records := by
  rcases h.mirror with hshelf | ⟨new, -, hrecords⟩
  · exact hshelf ▸ List.prefix_rfl
  · exact ⟨[new], hrecords.symm⟩

/-! ### A lookup of somebody whom the registry has -/

/-- Registry, network and replica work. -/
structure Working (p : Pair) : Prop where
  /-- The network is not cut. -/
  line : p.supply.outage = false
  /-- No switch is on at the registry's employees. -/
  registry : p.supply.registry.employees.faults = {}
  /-- No switch is on at the replica. -/
  replica : p.replica.faults = {}

/-- If a lookup has come out, then with somebody. -/
def Due (errand : Errand) : Prop :=
  ∀ outcome, errand = .settled outcome →
    ∃ found e, outcome = .ok found ∧ found.employee? = some e

/-- **While everything works, a lookup of somebody whom the registry has does not fail.** -/
theorem Due.step (hroot : base.trunk = []) (hquery : base.query.getD [] = [])
    (hspeaks : Network.speaks base = true) (hkey : IsKey key)
    (hsize : (Endpoint.employee base key).size ≤ Target.largestSize) {e : Employee}
    (hheld : p.supply.registry.employees.shelf.find? key = some e) (hworks : Working p)
    {errand : Errand} (hknown : Known p.supply.registry p.replica.shelf key errand)
    (h : Due errand) :
    Working (errand.step (Branch.desk (Pair.masterData base)) p).2 ∧
      Due (errand.step (Branch.desk (Pair.masterData base)) p).1 := by
  have hsearch (k : String) : (Branch.desk (Pair.masterData base)).replica.find k p =
      (.ok (p.replica.shelf.find? k),
        { p with replica := { p.replica with finds := p.replica.finds + 1 } }) :=
    Replica.find_of_steady _ hworks.replica
  -- only the point before the question has something to ask of the registry, and there it answers
  cases errand with
  | searching k =>
    simp only [Errand.step, hsearch]
    refine ⟨⟨hworks.line, hworks.registry, hworks.replica⟩, ?_⟩
    cases p.replica.shelf.find? k with
    | none => rintro outcome ⟨⟩
    | some m =>
      rintro outcome ⟨⟩
      exact ⟨_, m, rfl, rfl⟩
  | asking k =>
    cases hknown
    have hasked := Line.employee_of_steady hroot hquery hspeaks hkey hsize hworks.line
      hworks.registry hheld
    have htold : e.told.rssbNumber = key := (Shelf.find?_eq_some hheld).2
    simp only [Errand.step, Branch.desk, Branch.source, Action.within, hasked, Errand.asked,
      if_pos htold]
    exact ⟨⟨hworks.line, hworks.registry, hworks.replica⟩, by rintro outcome ⟨⟩⟩
  | keeping k candidate =>
    simp only [Errand.step, Branch.desk, Branch.employees,
      SwitchedShelf.create_of_steady hworks.replica]
    refine ⟨⟨hworks.line, hworks.registry, hworks.replica⟩, ?_⟩
    rcases p.replica.shelf.create_cases candidate with ⟨-, hcreate⟩ | ⟨-, shelf, hcreate, -⟩
    · rw [hcreate]
      rintro outcome ⟨⟩
    · rw [hcreate]
      rintro outcome ⟨⟩
      exact ⟨_, candidate, rfl, rfl⟩
  | rereading k failure =>
    obtain ⟨rfl, htaken⟩ := hknown
    obtain ⟨m, hm⟩ := Shelf.taken_iff.1 htaken
    simp only [Errand.step, hsearch, hm]
    refine ⟨⟨hworks.line, hworks.registry, hworks.replica⟩, ?_⟩
    rintro outcome ⟨⟩
    exact ⟨_, m, rfl, rfl⟩
  | settled outcome => exact ⟨hworks, h⟩

end

/-! ### The response -/

/-- What a request for an employee is answered. -/
theorem respondTo_cases {request : Request} (hmethod : request.method = "GET") (key : String)
    (outcome : Attempt StoreError Resolution) :
    (∃ found e response, outcome = .ok found ∧ found.employee? = some e ∧
      respondTo request key outcome = some response ∧ response.status = 200 ∧
      response.body = e.toJson.render) ∨
    ((∀ found, outcome = .ok found → found.employee? = none) ∧
      ∀ response, respondTo request key outcome = some response → response.status ≠ 200) := by
  have hfault (f : BranchFault) : f.response.status ≠ 200 := by
    show f.status ≠ 200
    cases f <;> simp [BranchFault.status]
  have hresponds : respondTo request key outcome =
      ((respond BranchFault.response 200 Employee.toJson (Action.next
        (Action.ofAttempt (outcome.restate BranchFault.store)) (resolved key) ()).1).map
          ((branchOrigins ["*"]).mark request)) := by
    rw [respondTo, Registry.dispatch_get hmethod]
    rfl
  have hrefused (f : BranchFault) (response : Response)
      (h : (some f.response).map ((branchOrigins ["*"]).mark request) = some response) :
      response.status ≠ 200 := by
    cases h
    rw [status_mark]
    exact hfault f
  -- a failed lookup, one that was abandoned, and one that came out, with nobody or with somebody
  rcases outcome with (x | _) | found
  · rw [hresponds]
    exact .inr ⟨by rintro found ⟨⟩, hrefused (.store x)⟩
  · rw [hresponds]
    exact .inr ⟨by rintro found ⟨⟩, by rintro response ⟨⟩⟩
  · cases he : found.employee? with
    | none =>
      have hnobody : resolved key found () = (Attempt.refuse (.notFound "employee" key), ()) := by
        rw [resolved, he]
        rfl
      rw [hresponds]
      refine .inr ⟨by rintro _ ⟨⟩; exact he, ?_⟩
      simp only [Attempt.restate_ok, Action.next, Action.ofAttempt, hnobody]
      exact hrefused (.notFound "employee" key)
    | some e =>
      have hsomebody : resolved key found () = (.ok e, ()) := by
        rw [resolved, he]
        rfl
      refine .inl ⟨found, e, (branchOrigins ["*"]).mark request (.ofJson 200 e.toJson), rfl, he,
        hresponds.trans ?_, status_mark .., body_mark ..⟩
      simp only [Attempt.restate_ok, Action.next, Action.ofAttempt, hsomebody]
      rfl

/-! ### Registry and branch -/

/-- Everything is as it should be: the records of the registry are valid, the branch has nobody whom
the registry does not have, and what is known where a lookup waits is true. -/
structure Faithful (o : Office) : Prop where
  /-- The records of the registry are valid. -/
  sound : Sound o.registry
  /-- Whom the replica has, the registry has. -/
  mirrored : ∀ m ∈ o.mirror.records, Mirrored o.registry m
  /-- What is known of each lookup where it waits is true. -/
  visits : ∀ v ∈ o.visits, ∀ key errand, v.task = .employee key errand →
    task? v.request = some (.employee key (.searching key)) ∧
      Known o.registry o.mirror key errand

section

variable {base : Url} {ttl : Nat} {o : Office}

/-- An office that opens has nobody to be unfaithful about. -/
theorem faithful_opening (now : Timestamp) : Faithful (Office.opening now) :=
  ⟨Registry.sound_empty, fun _ hm ↦ absurd hm List.not_mem_nil,
    fun _ hv ↦ absurd hv List.not_mem_nil⟩

/-- What goes on aside leaves the replica as it is. -/
theorem Aside.mirror_eq {o o' : Office} (h : Aside o.pair o'.pair) : o'.mirror = o.mirror :=
  h.mirror

/-- What leaves the employees of the branch alone, and no lookup but at its beginning, disturbs
nothing. -/
theorem Faithful.of_aside {o' : Office} (h : Faithful o) (haside : Aside o.pair o'.pair)
    (hvisits : ∀ v ∈ o'.visits, ∀ key errand, v.task = .employee key errand →
      v ∈ o.visits ∨ task? v.request = some v.task) : Faithful o' where
  sound := haside.sound h.sound
  mirrored m hm := (h.mirrored m (haside.mirror_eq ▸ hm)).mono haside.registry
  visits v hv key errand htask := by
    rcases hvisits v hv key errand htask with hold | hnew
    · obtain ⟨hrequest, hknown⟩ := h.visits v hold key errand htask
      exact ⟨hrequest, hknown.mono haside.registry (haside.mirror_eq ▸ List.prefix_rfl)⟩
    · rw [htask] at hnew
      obtain ⟨-, rfl, -⟩ := task?_employee hnew
      exact ⟨hnew, rfl⟩

/-- The next call of a lookup of an employee. -/
theorem Faithful.call (hroot : base.trunk = []) (hquery : base.query.getD [] = [])
    (h : Faithful o) {i : Nat} {v : Visit} (hv : o.visits[i]? = some v) {key : String}
    {errand : Errand} (htask : v.task = .employee key errand) :
    Faithful (o.step base ttl (.call i)) := by
  obtain ⟨hrequest, hknown⟩ := h.visits v (List.mem_of_getElem? hv) key errand htask
  have hadvanced := hknown.step hroot hquery
  simp only [Office.step, hv, htask, Task.step]
  generalize errand.step (Branch.desk (Pair.masterData base)) o.pair = stepped at hadvanced
  obtain ⟨errand', p'⟩ := stepped
  refine ⟨h.sound.of_same hadvanced.registry, hadvanced.mirrored h.mirrored, ?_⟩
  intro w hw k errand'' htask'
  rcases List.mem_or_eq_of_mem_set hw with hold | rfl
  · obtain ⟨hrequest', hknown'⟩ := h.visits w hold k errand'' htask'
    exact ⟨hrequest', hknown'.mono hadvanced.registry.grown hadvanced.grown⟩
  · cases htask'
    exact ⟨hrequest, hadvanced.known⟩

/-- Whatever happens, the office stays faithful. -/
theorem Faithful.step (hroot : base.trunk = []) (hquery : base.query.getD [] = [])
    (h : Faithful o) (incident : Incident) : Faithful (o.step base ttl incident) := by
  -- only calls of lookups of employees touch the replica; everything else goes on aside
  cases incident with
  | registry event =>
    refine h.of_aside ⟨rfl, Registry.grown_step event, fun hsound ↦ hsound.step ["*"] event⟩ ?_
    exact fun v hv _ _ _ ↦ .inl hv
  | request request =>
    cases htask : task? request with
    | none =>
      simp only [Office.step, htask]
      exact h.of_aside (aside_serveBranch base ttl htask o.pair) fun v hv _ _ _ ↦ .inl hv
    | some task =>
      simp only [Office.step, htask]
      refine h.of_aside (Aside.refl o.pair) fun v hv _ _ _ ↦ ?_
      rcases List.mem_append.1 hv with hv | hv
      · exact .inl hv
      · rw [List.mem_singleton.1 hv]
        exact .inr htask
  | call i =>
    cases hv : o.visits[i]? with
    | none =>
      simp only [Office.step, hv]
      exact h
    | some v =>
      cases htask : v.task with
      | employee key errand => exact h.call hroot hquery hv htask
      | contributions lookup =>
        simp only [Office.step, hv, htask, Task.step]
        refine h.of_aside (aside_lookup base ttl lookup o.pair) fun w hw key errand htask' ↦ ?_
        rcases List.mem_or_eq_of_mem_set hw with hold | rfl
        · exact .inl hold
        · cases htask'
  | line outage => exact h.of_aside ⟨rfl, (Same.refl _).grown, id⟩ fun v hv _ _ _ ↦ .inl hv
  | mirror faults => exact h.of_aside (.of_unchanged rfl (.refl _)) fun v hv _ _ _ ↦ .inl hv
  | cache cache => exact h.of_aside (.of_unchanged rfl (.refl _)) fun v hv _ _ _ ↦ .inl hv
  | clock now => exact h.of_aside (.of_unchanged rfl (.refl _)) fun v hv _ _ _ ↦ .inl hv

theorem Faithful.run (hroot : base.trunk = []) (hquery : base.query.getD [] = [])
    (h : Faithful o) (incidents : List Incident) : Faithful (o.run base ttl incidents) :=
  History.run_keeps h (fun _ incident h ↦ h.step hroot hquery incident) incidents

/-- **A request for somebody whom the registry has comes out with somebody**, if everything works
at all times and it may make enough calls. -/
theorem Faithful.found (hroot : base.trunk = []) (hquery : base.query.getD [] = [])
    (hspeaks : Network.speaks base = true) (h : Faithful o) {i : Nat} {v : Visit}
    (hv : o.visits[i]? = some v) {key : String} {errand : Errand}
    (htask : v.task = .employee key errand) (hdue : Due errand)
    (hsize : (Endpoint.employee base key).size ≤ Target.largestSize) {e : Employee}
    (hheld : o.registry.employees.shelf.find? key = some e) {later : List Incident}
    (hworks : ∀ past, past <+: later → Working (o.run base ttl past).pair)
    (hcalls : rank errand ≤ later.countP (Incident.calls i)) :
    ∃ found m, (o.run base ttl later).visits[i]? =
        some { v with task := .employee key (.settled (.ok found)) } ∧
      found.employee? = some m := by
  -- on what is still to come: each turn of the lookup brings it nearer to its end, others leave it
  -- where it is
  induction later generalizing o v errand with
  | nil =>
    cases errand with
    | settled outcome =>
      obtain ⟨found, m, rfl, hm⟩ := hdue outcome rfl
      exact ⟨found, m, by rw [← htask]; exact hv, hm⟩
    | _ => simp [rank] at hcalls
  | cons incident later ih =>
    have hfaithful : Faithful (o.step base ttl incident) := h.step hroot hquery incident
    have hheld' := Shelf.find?_of_prefix (Office.grown_step base ttl o incident).employees hheld
    have hworks' (past : List Incident) (hpast : past <+: later) :
        Working ((o.step base ttl incident).run base ttl past).pair :=
      hworks (incident :: past) (List.cons_prefix_cons.2 ⟨rfl, hpast⟩)
    rw [List.countP_cons] at hcalls
    cases hcall : incident.calls i with
    | false =>
      rw [hcall, if_neg Bool.false_ne_true, Nat.add_zero] at hcalls
      exact ih hfaithful (Office.visit_step base ttl hv hcall) htask hdue hheld' hworks' hcalls
    | true =>
      obtain rfl : incident = .call i := by
        cases incident with
        | call j => rw [eq_of_beq (show (j == i) = true from hcall)]
        | _ => cases hcall
      obtain ⟨-, hknown⟩ := h.visits v (List.mem_of_getElem? hv) key errand htask
      obtain ⟨hmem, hkey⟩ := Shelf.find?_eq_some hheld
      have hvalid : IsKey key := hkey ▸ (h.sound.employees e hmem).rssbNumber
      obtain ⟨-, hdue'⟩ := hdue.step hroot hquery hspeaks hvalid hsize hheld
        (hworks [] List.nil_prefix) hknown
      have hv' := Office.visit_call base ttl hv
      rw [htask] at hv'
      rw [hcall, if_pos rfl] at hcalls
      have hrank : rank (errand.step (Branch.desk (Pair.masterData base)) o.pair).1 ≤
          later.countP (Incident.calls i) :=
        (rank_step errand o.pair).trans (Nat.sub_le_iff_le_add.2 hcalls)
      obtain ⟨found, m, hfound, hm⟩ := ih hfaithful hv' rfl hdue' hheld' hworks' hrank
      exact ⟨found, m, hfound, hm⟩

/-! ### A request that nothing disturbs -/

/-- What is known stays true over several calls. -/
theorem Known.calls (hroot : base.trunk = []) (hquery : base.query.getD [] = []) {key : String}
    (n : Nat) {errand : Errand} {p : Pair}
    (hmirrored : ∀ m ∈ p.replica.shelf.records, Mirrored p.supply.registry m)
    (h : Known p.supply.registry p.replica.shelf key errand) :
    let looked := calls (Branch.desk (Pair.masterData base)) n (errand, p)
    (∀ m ∈ looked.2.replica.shelf.records, Mirrored looked.2.supply.registry m) ∧
      Known looked.2.supply.registry looked.2.replica.shelf key looked.1 := by
  induction n generalizing errand p with
  | zero => exact ⟨hmirrored, h⟩
  | succ n ih =>
    have hadvanced := h.step hroot hquery
    exact ih (hadvanced.mirrored hmirrored) hadvanced.known

/-- A lookup that nothing disturbs does not come out with nobody. -/
theorem Due.calls (hroot : base.trunk = []) (hquery : base.query.getD [] = [])
    (hspeaks : Network.speaks base = true) {key : String} (hkey : IsKey key)
    (hsize : (Endpoint.employee base key).size ≤ Target.largestSize) {e : Employee}
    (n : Nat) {errand : Errand} {p : Pair}
    (hheld : p.supply.registry.employees.shelf.find? key = some e) (hworks : Working p)
    (hknown : Known p.supply.registry p.replica.shelf key errand) (h : Due errand) :
    Due (calls (Branch.desk (Pair.masterData base)) n (errand, p)).1 := by
  induction n generalizing errand p with
  | zero => exact h
  | succ n ih =>
    obtain ⟨hworks', hdue⟩ := h.step hroot hquery hspeaks hkey hsize hheld hworks hknown
    have hadvanced := hknown.step hroot hquery
    exact ih (Shelf.find?_of_prefix hadvanced.registry.grown.employees hheld) hworks'
      hadvanced.known hdue

end

/-! ### What is answered -/

/-- A question for the employee under a key. -/
structure Asks (request : Request) (key : String) : Prop where
  /-- It is a question. -/
  method : request.method = "GET"
  /-- It is for the employee whose key the segment stands for. -/
  resource : ∃ segment, BranchResource.ofPath? request.target.path = some (.employee segment) ∧
    key? segment = some key

/-- A question for an employee takes a lookup. -/
theorem Asks.task? {request : Request} {key : String} (h : Asks request key) :
    Deployment.task? request = some (.employee key (.searching key)) := by
  obtain ⟨segment, hpath, hkey⟩ := h.resource
  simp only [Deployment.task?, if_pos (Or.inl h.method), hpath, hkey, Option.map_some]

/-- A response is about the person whom the registry has under a key. -/
def Tells (r : Registry) (key : String) (response : Response) : Prop :=
  ∃ e m, r.employees.shelf.find? key = some e ∧ SamePerson e m ∧ response.body = m.toJson.render

/-- What is answered when a lookup has come out. -/
theorem tells_of_known {r : Registry} {mirror : Shelf Employee} {request : Request} {key : String}
    (hasks : Asks request key) {outcome : Attempt StoreError Resolution}
    (hknown : Known r mirror key (.settled outcome))
    (hmirrored : ∀ m ∈ mirror.records, Mirrored r m) {response : Response}
    (hresponse : respondTo request key outcome = some response) (hstatus : response.status = 200) :
    Tells r key response := by
  rcases respondTo_cases hasks.method key outcome with
    ⟨found, m, _, hfound, hm, hresponds, -, hbody⟩ | ⟨-, hfails⟩
  · cases hresponds.symm.trans hresponse
    obtain ⟨hmem, hkey⟩ := Shelf.find?_eq_some (hknown found m hfound hm)
    obtain ⟨e, he, hsame⟩ := hmirrored m hmem
    have hnumber : m.rssbNumber = key := hkey
    rw [hnumber] at he
    exact ⟨e, m, he, hsame, hbody⟩
  · exact absurd hstatus (hfails response hresponse)

/-- Whoever is found is answered with a success. -/
theorem respondTo_found {request : Request} {key : String} (hasks : Asks request key)
    {found : Resolution} {m : Employee} (hm : found.employee? = some m) :
    ∃ response, respondTo request key (.ok found) = some response ∧ response.status = 200 := by
  rcases respondTo_cases hasks.method key (.ok found) with
    ⟨_, _, response, -, -, hresponds, hstatus, -⟩ | ⟨hnobody, -⟩
  · exact ⟨response, hresponds, hstatus⟩
  · cases (hnobody found rfl).symm.trans hm

/-! ### A faithful branch -/

section

variable {base : Url} {ttl : Nat} {o : Office} {request : Request} {key : String}

/-- What was answered to a request that is under way is about the person of the registry. -/
theorem Faithful.visit_tells (h : Faithful o) {v : Visit} (hv : v ∈ o.visits)
    (hasks : Asks v.request key) {response : Response} (hresponse : v.response? = some response)
    (hstatus : response.status = 200) : Tells o.registry key response := by
  unfold Visit.response? at hresponse
  split at hresponse
  · next key' outcome htask =>
    obtain ⟨hrequest, hknown⟩ := h.visits v hv key' _ htask
    cases hrequest.symm.trans hasks.task?
    exact tells_of_known hasks hknown h.mirrored hresponse hstatus
  · cases hresponse

/-- What is answered to a request that nothing disturbs is about the person of the registry. -/
theorem Faithful.tells (hroot : base.trunk = []) (hquery : base.query.getD [] = [])
    (h : Faithful o) (hasks : Asks request key) {response : Response}
    (hresponse : (Pair.serveBranch base ttl request o.pair).1 = some response)
    (hstatus : response.status = 200) :
    Tells (Pair.serveBranch base ttl request o.pair).2.supply.registry key response := by
  obtain ⟨hmirrored, hknown⟩ := Known.calls hroot hquery 4 h.mirrored
    (show Known o.registry o.mirror key (.searching key) from rfl)
  rw [show calls _ 4 (.searching key, o.pair) = _ from calls_resolve _ key o.pair]
    at hmirrored hknown
  rw [serveBranch_lookup base ttl hasks.task? o.pair] at hresponse ⊢
  exact tells_of_known hasks hknown hmirrored hresponse hstatus

/-- A lookup that has not come out has not come out with nobody. -/
theorem due_searching (key : String) : Due (.searching key) := by
  rintro outcome ⟨⟩

/-- A request that nothing disturbs is answered about whom the registry has. -/
theorem Faithful.answers (hroot : base.trunk = []) (hquery : base.query.getD [] = [])
    (hspeaks : Network.speaks base = true) (h : Faithful o)
    (hsize : (Endpoint.employee base key).size ≤ Target.largestSize) {e : Employee}
    (hheld : o.registry.employees.shelf.find? key = some e) (hasks : Asks request key)
    (hworks : Working o.pair) :
    ∃ response, (Pair.serveBranch base ttl request o.pair).1 = some response ∧
      response.status = 200 := by
  obtain ⟨hmem, hnumber⟩ := Shelf.find?_eq_some hheld
  have hkey : IsKey key := hnumber ▸ (h.sound.employees e hmem).rssbNumber
  have hcame := (due_searching key).calls hroot hquery hspeaks hkey hsize 4 hheld hworks
    (show Known o.registry o.mirror key (.searching key) from rfl)
  rw [show calls _ 4 (.searching key, o.pair) = _ from calls_resolve _ key o.pair] at hcame
  obtain ⟨found, m, hfound, hm⟩ := hcame _ rfl
  rw [serveBranch_lookup base ttl hasks.task? o.pair, hfound]
  exact respondTo_found hasks hm

/-- A request is answered about whom the registry has, whatever happens between its calls, as soon
as it has made four of them. -/
theorem Faithful.answers_later (hroot : base.trunk = []) (hquery : base.query.getD [] = [])
    (hspeaks : Network.speaks base = true) (h : Faithful o)
    (hsize : (Endpoint.employee base key).size ≤ Target.largestSize) {e : Employee}
    (hheld : o.registry.employees.shelf.find? key = some e) (hasks : Asks request key)
    {later : List Incident}
    (hworks : ∀ past, past <+: later → Working (o.run base ttl (.request request :: past)).pair)
    (hcalls : 4 ≤ later.countP (Incident.calls o.visits.length)) :
    ∃ v response,
      (o.run base ttl (.request request :: later)).visits[o.visits.length]? = some v ∧
        v.request = request ∧ v.response? = some response ∧ response.status = 200 := by
  have hcomes : o.step base ttl (.request request) =
      { o with visits := o.visits ++ [⟨request, .employee key (.searching key)⟩] } := by
    simp only [Office.step, hasks.task?]
  have hv : (o.step base ttl (.request request)).visits[o.visits.length]? =
      some ⟨request, .employee key (.searching key)⟩ := by
    rw [hcomes]
    exact List.getElem?_concat_length
  have hheld' : (o.step base ttl (.request request)).registry.employees.shelf.find? key =
      some e := by
    rw [hcomes]
    exact hheld
  obtain ⟨found, m, hvisit, hm⟩ := (h.step hroot hquery (.request request)).found hroot hquery
    hspeaks hv rfl (due_searching key) hsize hheld' hworks hcalls
  obtain ⟨response, hresponds, hstatus⟩ := respondTo_found hasks hm
  exact ⟨_, response, hvisit, rfl, hresponds, hstatus⟩

end

/-- **A branch is faithful to its registry**, whatever happens to the two after they were opened.
Whom the branch has, the registry has with the same particulars; what it answers about a key is
about the person whom the registry has under the key, whether the request was left to itself or
other things happened between its calls; and if registry, network and replica work, it does answer
about whom the registry has, as long as the base URL leaves the URLs of the keys short enough to be
asked for. -/
theorem mirror_faithful {base : Url} (hroot : base.trunk = []) (hquery : base.query.getD [] = [])
    (ttl : Nat) (now : Timestamp) (incidents : List Incident) :
    let o := (Office.opening now).run base ttl incidents
    (∀ m ∈ o.mirror.records, Mirrored o.registry m) ∧
    (∀ v ∈ o.visits, ∀ key, Asks v.request key → ∀ response, v.response? = some response →
      response.status = 200 → Tells o.registry key response) ∧
    (∀ request key, Asks request key →
      let served := Pair.serveBranch base ttl request o.pair
      ∀ response, served.1 = some response → response.status = 200 →
        Tells served.2.supply.registry key response) ∧
    (Network.speaks base = true → ∀ key e, o.registry.employees.shelf.find? key = some e →
      (Endpoint.employee base key).size ≤ Target.largestSize → ∀ request, Asks request key →
        (Working o.pair → ∃ response, (Pair.serveBranch base ttl request o.pair).1 = some response ∧
          response.status = 200) ∧
        ∀ later,
          (∀ past, past <+: later → Working (o.run base ttl (.request request :: past)).pair) →
          4 ≤ later.countP (Incident.calls o.visits.length) →
          ∃ v response,
            (o.run base ttl (.request request :: later)).visits[o.visits.length]? = some v ∧
              v.request = request ∧ v.response? = some response ∧ response.status = 200) := by
  intro o
  have h : Faithful o := (faithful_opening now).run hroot hquery incidents
  exact ⟨h.mirrored, fun v hv key hasks response ↦ h.visit_tells hv hasks,
    fun request key hasks response ↦ h.tells hroot hquery hasks,
    fun hspeaks key e hheld hsize request hasks ↦
      ⟨h.answers hroot hquery hspeaks hsize hheld hasks,
        fun later ↦ h.answers_later hroot hquery hspeaks hsize hheld hasks⟩⟩

/-- A request that enters an employee in the registry. -/
def entering (e : NewEmployee) : Registry.Arrival where
  request :=
    { method := "POST", target := ⟨"/api/v1/employees".toList, none⟩,
      headers := [("content-type", "application/json")],
      body := Text.Utf8.encode e.toJson.render.toList }
  id := "a"
  clock := .startOf .epoch
  regular := Timestamp.second_startOf_lt .epoch
  uptime := 0

/-- A question for the employee under the key `7A`. -/
def asking : Request := { method := "GET", target := ⟨"/api/v1/employees/7A".toList, none⟩ }

/-- An employee is entered and asked for in vain while the network is cut, and then it is mended. -/
def mended : List Incident :=
  [.line true, .registry (.arrival (entering ⟨"Ada", "Byron", "7A", .epoch⟩)), .request asking,
    .call 0, .call 0, .line false]

/-- After the network is mended the branch answers about the employee. -/
theorem mirror_faithful_mended :
    let base := Url.ofHost "upstream"
    let o := (Office.opening (.startOf .epoch)).run base 60000 mended
    let served := Pair.serveBranch base 60000 asking o.pair
    o.visits.map Visit.response? = [respondTo asking "7A" (.ok (.syncFailed
      (.transport "http://upstream/api/v1/employees/7A" "connection refused")))] ∧
    ∃ response, served.1 = some response ∧ response.status = 200 ∧
      Tells served.2.supply.registry "7A" response := by
  have hasks : Asks asking "7A" := ⟨rfl, "7A".toList, by decide, by decide⟩
  have hbefore : ((Office.opening (.startOf .epoch)).run (Url.ofHost "upstream") 60000
      mended).visits.map Visit.response? = [respondTo asking "7A" (.ok (.syncFailed
        (.transport "http://upstream/api/v1/employees/7A" "connection refused")))] := by
    decide +kernel
  have hheld : ((Office.opening (.startOf .epoch)).run (Url.ofHost "upstream") 60000
      mended).registry.employees.shelf.find? "7A" =
        some ⟨"a", "Ada", "Byron", "7A", .epoch, .startOf .epoch, .startOf .epoch⟩ := by
    decide +kernel
  have hworks : Working ((Office.opening (.startOf .epoch)).run (Url.ofHost "upstream") 60000
      mended).pair := ⟨by decide +kernel, by decide +kernel, by decide +kernel⟩
  have h := mirror_faithful (show (Url.ofHost "upstream").trunk = [] by decide)
    (show (Url.ofHost "upstream").query.getD [] = [] from rfl) 60000 (.startOf .epoch) mended
  dsimp only at h ⊢
  -- what has happened is known now; from here on it would only be in the way
  generalize (Office.opening (.startOf .epoch)).run (Url.ofHost "upstream") 60000 mended = o
    at hbefore hheld hworks h ⊢
  obtain ⟨-, -, htells, hanswers⟩ := h
  obtain ⟨hanswered, -⟩ := hanswers (by decide) "7A" _ hheld (by decide) asking hasks
  obtain ⟨response, hresponse, hstatus⟩ := hanswered hworks
  exact ⟨hbefore, response, hresponse, hstatus,
    htells asking "7A" hasks response hresponse hstatus⟩

end ContributionRegistry.Deployment
