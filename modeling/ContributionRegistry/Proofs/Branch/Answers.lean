import ContributionRegistry.Proofs.Branch.Requests
import ContributionRegistry.Proofs.Cache.Degradation
import ContributionRegistry.Proofs.History
import ContributionRegistry.Proofs.MasterData.Exchanges
import ContributionRegistry.Proofs.Replica.Failures

/-!
# What a branch answers when something fails

A branch in service: requests come in, master data answers anything, replica and cache fail and
recover, time passes. Master data failing is the employee not being found, and contributions not
being available; the replica failing is a fault of the branch, and the cache failing is none but for
the figures about it (`failures_kept_apart`).

The three kinds of answer have a statement each, with the status in both directions and the body:

* `EmployeeAnswered`: there is a fault just if a call on the replica failed, and nobody is found
  just if neither the replica nor master data has anybody;
* `ListAnswered`: contributions are unavailable just if the cache missed and master data failed;
* `FiguresAnswered`: there are figures just if the keys could be counted.

That every question is answered rests on the texts in the cache: all of them were written for lists
(`Written`), so reading one of them is not abandoned. This is an invariant of whatever happens to a
branch (`Written.after`), requests to it included.
-/

namespace ContributionRegistry.Deployment

open Cache (CacheFaults clock residents)
open Calendar (Timestamp)
open Http (Request Response)
open Replica (Fails Nobody Unsteady resolve)
open Service

/-! ### A branch in service -/

/-- What happens to a branch in service. -/
inductive Happening where
  /-- A request comes in. At the calls it makes on the replica the switches are set to these, one
  setting for each, and stay as they are when there is none left. -/
  | request (request : Request) (settings : List StoreFaults) (uptime : Nat)
  /-- Master data is another from now on. -/
  | supplied (supply : Supply)
  /-- The replica is what somebody else has made of it. -/
  | replica (replica : SwitchedShelf Employee)
  /-- Other calls on the cache fail from now on. -/
  | faults (faults : CacheFaults)
  /-- It is another time of day. -/
  | dated (now : Timestamp)
  /-- Time passes. -/
  | passed (span : Nat)

/-- The branch after something has happened. -/
def step (ttl : Nat) (origins : List String) (b : Branch Supply) : Happening → Branch Supply
  | .request request settings uptime =>
    (serveBranch Unsteady.desk (Unsteady.lists ttl) origins uptime request ⟨b, settings⟩).2.branch
  | .supplied supply => { b with supply }
  | .replica replica => { b with replica }
  | .faults faults => { b with cache := { b.cache with faults } }
  | .dated now => { b with now }
  | .passed span => { b with cache := { b.cache with memory := b.cache.memory.advance span } }

/-- The branch after all that has happened. -/
def after (ttl : Nat) (origins : List String) (b : Branch Supply) (past : List Happening) :
    Branch Supply :=
  History.run (step ttl origins) b past

/-- Every text in the cache was written for a list. -/
def Written (b : Branch Supply) : Prop :=
  ∀ e ∈ residents b, ∃ list, e.text = TextCache.encodeList list

section

variable {b b' : Branch Supply} {ttl : Nat} {origins : List String}

/-- Only the cache matters. -/
theorem Written.of_cache (h : Written b) (hcache : b'.cache = b.cache) : Written b' := by
  intro e he
  refine h e ?_
  rwa [residents, ← hcache]

/-- A lookup writes nothing else than lists. -/
theorem Written.lookup (h : Written b) (ttl : Nat) (key : String) :
    Written (Cache.lookup ttl key b).2 := by
  intro e he
  obtain ⟨-, -, hnew⟩ := Cache.effect_of_course (Cache.course_lookup ttl key b)
  rcases hnew e he with hold | ⟨list, -, -, rfl⟩
  · exact h e hold
  · exact ⟨list, rfl⟩

/-- The figures leave the cache as it is, but for what has expired. -/
theorem Written.stats (h : Written b) (ttl : Nat) :
    Written (Cache.stats (Branch.lists Supply.masterData ttl) b).2 :=
  fun e he ↦ h e ((Cache.stats_effect ttl b).2 e he)

/-- **A request writes lists and nothing else.** -/
theorem Written.serve (h : Written b) (ttl : Nat) (origins : List String) (uptime : Nat)
    (request : Request) (settings : List StoreFaults) :
    Written (serveBranch Unsteady.desk (Unsteady.lists ttl) origins uptime request
      ⟨b, settings⟩).2.branch := by
  refine serveBranch_keeps (fun u : Unsteady ↦ Written u.branch) h fun resource ↦ ?_
  match resource with
  | .health => exact h
  | .employees => exact h.of_cache (Unsteady.cache_met ⟨b, settings⟩)
  | .employee segment =>
    rcases hkey : key? segment with _ | key
    · rw [serveReading_unreadable hkey (.inl rfl)]
      exact h
    · rw [serveReading_employee hkey]
      exact h.of_cache (Unsteady.cache_resolve key ⟨b, settings⟩)
  | .contributions segment =>
    rcases hkey : key? segment with _ | key
    · rw [serveReading_unreadable hkey (.inr rfl)]
      exact h
    · rw [serveReading_contributions hkey, Unsteady.fetch_eq]
      exact h.lookup ttl key
  | .stats =>
    rw [serveReading_stats, Unsteady.stats_eq]
    exact h.stats ttl

/-- Whatever happens, all texts in the cache are those of lists. -/
theorem Written.step (h : Written b) (ttl : Nat) (origins : List String) (happening : Happening) :
    Written (step ttl origins b happening) := by
  match happening with
  | .request request settings uptime => exact h.serve ttl origins uptime request settings
  | .supplied _ | .replica _ | .faults _ | .dated _ | .passed _ => exact h

/-- All texts in the cache are those of lists at all times. -/
theorem Written.after (h : Written b) (ttl : Nat) (origins : List String)
    (past : List Happening) : Written (after ttl origins b past) :=
  History.run_keeps h (fun _ happening h ↦ h.step ttl origins happening) past

theorem written_emptied (b : Branch Supply) : Written (Cache.emptied b) :=
  fun _ he ↦ absurd he List.not_mem_nil

end

/-! ### Questions for an employee -/

/-- How a question for an employee is answered, by the branch before it and after it. -/
structure EmployeeAnswered (key : String) (u u' : Unsteady) (status : Nat) (body : String) :
    Prop where
  /-- There are three answers. -/
  answered : status = 200 ∨ status = 404 ∨ status = 500
  /-- Whoever is told, the replica has. -/
  found : status = 200 → ∃ e, u'.mirror.find? key = some e ∧ body = e.toJson.render
  /-- Nobody is found just if there is nobody to be found. -/
  missing : status = 404 ↔ Nobody Unsteady.desk key u
  /-- The answer then names the key. -/
  missing_body : status = 404 → body = (BranchFault.notFound "employee" key).response.body
  /-- There is a fault just if the replica fails the lookup. -/
  failed : status = 500 ↔ Fails Unsteady.desk key u
  /-- The answer then has the failure of the replica. -/
  failed_body : status = 500 → ∃ x, (x = SwitchedShelf.fault ∨ x = .conflict "employee" key) ∧
    body = (BranchFault.store x).response.body

section

variable {key : String} {u : Unsteady}

/-- A lookup that the replica fails is answered with the failure. -/
theorem answered_of_refused {x : StoreError}
    (hout : (resolve Unsteady.desk key u).1 = .error (.refused x)) :
    EmployeeAnswered key u (resolve Unsteady.desk key u).2 500
      (BranchFault.store x).response.body := by
  have haccounted := Unsteady.accounted_of_course (Replica.course_resolve Unsteady.desk key u)
  rw [hout] at haccounted
  have hsomebody : ¬ Nobody Unsteady.desk key u := by
    rw [← Replica.resolve_nobody_iff, hout]
    rintro ⟨r, hr, -⟩
    cases hr
  exact {
    answered := .inr (.inr rfl)
    found := fun h ↦ absurd h (by decide)
    missing := iff_of_false (by decide) hsomebody
    missing_body := fun h ↦ absurd h (by decide)
    failed := iff_of_true rfl (Unsteady.error_iff_fails.1 ⟨_, hout⟩)
    failed_body := fun _ ↦ ⟨x, haccounted.2.1.imp_right And.left, rfl⟩ }

/-- A lookup that comes out is answered with whom it came out with. -/
theorem answered_of_ok {r : Replica.Resolution}
    (hout : (resolve Unsteady.desk key u).1 = .ok r) :
    match r.employee? with
    | none => EmployeeAnswered key u (resolve Unsteady.desk key u).2 404
        (BranchFault.notFound "employee" key).response.body
    | some e => EmployeeAnswered key u (resolve Unsteady.desk key u).2 200 e.toJson.render := by
  have hsound : ¬ Fails Unsteady.desk key u := by
    rw [← Unsteady.error_iff_fails, hout]
    rintro ⟨f, hf⟩
    cases hf
  rcases he : r.employee? with _ | e
  · exact {
      answered := .inr (.inl rfl)
      found := fun h ↦ absurd h (by decide)
      missing := iff_of_true rfl (Replica.resolve_nobody_iff.1 ⟨r, hout, he⟩)
      missing_body := fun _ ↦ rfl
      failed := iff_of_false (by decide) hsound
      failed_body := fun h ↦ absurd h (by decide) }
  · have hsomebody : ¬ Nobody Unsteady.desk key u := by
      rw [← Replica.resolve_nobody_iff, hout]
      rintro ⟨r', hr, hnone⟩
      cases hr
      cases he.symm.trans hnone
    exact {
      answered := .inl rfl
      found := fun _ ↦ ⟨e, Unsteady.mirror_of_resolve hout he, rfl⟩
      missing := iff_of_false (by decide) hsomebody
      missing_body := fun h ↦ absurd h (by decide)
      failed := iff_of_false (by decide) hsound
      failed_body := fun h ↦ absurd h (by decide) }

/-- **A lookup of an employee is answered**, with a fault of the branch only if the replica fails
it. -/
theorem employee_answered (key : String) (u : Unsteady) :
    ∃ response, employeeResponse key (resolve Unsteady.desk key u).1 = some response ∧
      EmployeeAnswered key u (resolve Unsteady.desk key u).2 response.status response.body := by
  have haccounted := Unsteady.accounted_of_course (Replica.course_resolve Unsteady.desk key u)
  rcases hout : (resolve Unsteady.desk key u).1 with (x | _) | r
  · exact ⟨_, rfl, answered_of_refused hout⟩
  · rw [hout] at haccounted
    exact haccounted.elim
  · refine ⟨_, rfl, ?_⟩
    have hanswered := answered_of_ok hout
    rcases he : r.employee? with _ | e
    all_goals
      rw [he] at hanswered
      exact hanswered

end

/-! ### Questions for contributions -/

/-- How a question for contributions is answered. -/
structure ListAnswered (b : Branch Supply) (key : String) (status : Nat) (body : String) :
    Prop where
  /-- There are two answers. -/
  answered : status = 200 ∨ status = 502
  /-- The list told is one in the cache under the key, or the one that master data gives. -/
  found : status = 200 → ∃ list, body = (Contribution.listToJson list).render ∧
    ((∃ e ∈ residents b, e.key = Cache.listKey key ∧ clock b < e.deadline ∧
      TextCache.decodeList e.text = .ok list) ∨ Cache.answer b key = .ok list)
  /-- Contributions are unavailable just if the cache has none and master data fails. -/
  unavailable : status = 502 ↔
    Cache.Missed (Branch.texts.getList (Cache.listKey key) b).1 ∧
      ∃ cause, Cache.answer b key = .error cause
  /-- The answer then has the failure of master data. -/
  unavailable_body : status = 502 → ∃ cause, Cache.answer b key = .error cause ∧
    body = (BranchFault.unavailable cause).response.body

section

variable {b : Branch Supply} {ttl : Nat} {key : String}

/-- **A lookup of contributions is answered**, be it with what stands in their way. -/
theorem list_answered (hwritten : Written b) (hclock : clock b + ttl < Cache.clockBound)
    (key : String) :
    ∃ response, cacheResponse Contribution.listToJson (Cache.lookup ttl key b).1 = some response ∧
      ListAnswered b key response.status response.body := by
  obtain ⟨haccounted, -⟩ := Cache.effect_of_course (Cache.course_lookup ttl key b)
  rcases hout : (Cache.lookup ttl key b).1 with (x | _) | list
  all_goals rw [hout] at haccounted
  · obtain ⟨-, hmissed, cause, rfl, hanswer⟩ := haccounted
    have hanswered : ListAnswered b key 502 (BranchFault.unavailable cause).response.body := {
      answered := .inr rfl
      found := fun h ↦ absurd h (by decide)
      unavailable := iff_of_true rfl ⟨hmissed, cause, hanswer⟩
      unavailable_body := fun _ ↦ ⟨cause, hanswer, rfl⟩ }
    exact ⟨_, rfl, hanswered⟩
  -- a lookup is abandoned for the clock or for an unreadable amount, and there is neither
  · rcases haccounted with hbeyond | ⟨e, he, hdecode⟩
    · exact absurd hclock (Nat.not_lt.2 hbeyond)
    · obtain ⟨list, htext⟩ := hwritten e he
      exact absurd (htext ▸ hdecode) (TextCache.decodeList_encodeList_ne_abandoned list)
  · have hanswered : ListAnswered b key 200 (Contribution.listToJson list).render := {
      answered := .inl rfl
      found := fun _ ↦ ⟨list, rfl, haccounted.symm.imp And.right And.right⟩
      unavailable := by
        refine iff_of_false (by decide) ?_
        rintro ⟨hmissed, cause, hanswer⟩
        cases hout.symm.trans (Cache.lookup_failed_iff.2 ⟨hmissed, hanswer⟩)
      unavailable_body := fun h ↦ absurd h (by decide) }
    exact ⟨_, rfl, hanswered⟩

end

/-! ### Questions for the figures -/

/-- How a question for the figures about the cache is answered. -/
structure FiguresAnswered (b : Branch Supply) (status : Nat) (body : String) : Prop where
  /-- There are two answers. -/
  answered : status = 200 ∨ status = 500
  /-- Figures are the tally and the number of keys. -/
  found : status = 200 → ∃ keys, (Branch.texts.count (Cache.listKeyStart ++ "*") b).1 = .ok keys ∧
    body = (statsJson ⟨b.tally.hits, b.tally.misses, keys⟩).render
  /-- There are none just if the keys could not be counted. -/
  failed : status = 500 ↔
    ∃ f, (Branch.texts.count (Cache.listKeyStart ++ "*") b).1 = .error f
  /-- The answer then has the failure of the cache. -/
  failed_body : status = 500 → body = (BranchFault.cache Cache.SwitchedCache.fault).response.body

/-- The figures are answered in one of the two ways. -/
theorem figures_answered (ttl : Nat) (b : Branch Supply) :
    ∃ response,
      cacheResponse statsJson (Cache.stats (Branch.lists Supply.masterData ttl) b).1 =
        some response ∧ FiguresAnswered b response.status response.body := by
  have hcount := Cache.count_eq (Cache.listKeyStart ++ "*") b
  unfold Cache.stats
  rw [show (Branch.lists Supply.masterData ttl).cache.count = Branch.texts.count from rfl]
  by_cases hfault : b.cache.faults.count = true
  · rw [if_pos hfault] at hcount
    have hanswered : FiguresAnswered b 500
        (BranchFault.cache Cache.SwitchedCache.fault).response.body := {
      answered := .inr rfl
      found := fun h ↦ absurd h (by decide)
      failed := iff_of_true rfl ⟨_, congrArg Prod.fst hcount⟩
      failed_body := fun _ ↦ rfl }
    rw [hcount]
    exact ⟨_, rfl, hanswered⟩
  · rw [if_neg hfault] at hcount
    have hanswered : FiguresAnswered b 200 (statsJson ⟨b.tally.hits, b.tally.misses,
        ((residents b).count (clock b) (Cache.listKeyStart ++ "*")).1⟩).render := {
      answered := .inl rfl
      found := fun _ ↦ ⟨_, congrArg Prod.fst hcount, rfl⟩
      failed := by
        refine iff_of_false (by decide) ?_
        rintro ⟨f, hf⟩
        cases hf.symm.trans (congrArg Prod.fst hcount)
      failed_body := fun h ↦ absurd h (by decide) }
    rw [hcount]
    exact ⟨_, rfl, hanswered⟩

/-! ### All questions -/

/-- **No failure is answered as another one.** Whatever has happened to the branch, a question for
an employee is answered with a fault of the branch only if its replica fails, with an employee only
if the replica has it then, and otherwise with nobody, so that no failure of master data is a fault.
A question for contributions is answered with a list that is in the cache or that master data gives,
or, exactly if neither has one, with the failure of master data; the cache failing is no fault. Only
figures about the cache fail when counting does. -/
theorem failures_kept_apart (ttl : Nat) (origins : List String) (b : Branch Supply)
    (past : List Happening) (settings : List StoreFaults) (uptime : Nat) (request : Request)
    (hmethod : request.method = "GET")
    (hclock : clock (after ttl origins (Cache.emptied b) past) + ttl < Cache.clockBound) :
    let now := after ttl origins (Cache.emptied b) past
    let served := serveBranch Unsteady.desk (Unsteady.lists ttl) origins uptime request
      ⟨now, settings⟩
    (∀ segment key, BranchResource.ofPath? request.target.path = some (.employee segment) →
      key? segment = some key → ∃ response, served.1 = some response ∧
        EmployeeAnswered key ⟨now, settings⟩ served.2 response.status response.body) ∧
    (∀ segment key, BranchResource.ofPath? request.target.path = some (.contributions segment) →
      key? segment = some key → ∃ response, served.1 = some response ∧
        ListAnswered now key response.status response.body) ∧
    (BranchResource.ofPath? request.target.path = some .stats →
      ∃ response, served.1 = some response ∧
        FiguresAnswered now response.status response.body) := by
  intro now served
  -- nothing in the cache is there that lookups have not written, so no entry of it abandons its
  -- reader
  have hwritten : Written now := (written_emptied b).after ttl origins past
  refine ⟨fun segment key hpath hkey ↦ ?_, fun segment key hpath hkey ↦ ?_, fun hpath ↦ ?_⟩
  -- what is said about origins comes on top of the answer and changes neither status nor body
  all_goals have hserved : served = _ := serveBranch_get hmethod hpath
  · obtain ⟨response, hresponse, hanswered⟩ := employee_answered key ⟨now, settings⟩
    rw [serveReading_employee hkey, hresponse] at hserved
    rw [hserved]
    refine ⟨_, rfl, ?_⟩
    rwa [status_mark, body_mark]
  · obtain ⟨response, hresponse, hanswered⟩ := list_answered hwritten hclock key
    rw [serveReading_contributions hkey, Unsteady.fetch_eq, hresponse] at hserved
    rw [hserved]
    refine ⟨_, rfl, ?_⟩
    rwa [status_mark, body_mark]
  · obtain ⟨response, hresponse, hanswered⟩ := figures_answered ttl now
    rw [serveReading_stats, Unsteady.stats_eq, hresponse] at hserved
    rw [hserved]
    refine ⟨_, rfl, ?_⟩
    rwa [status_mark, body_mark]

/-- A list is kept for a minute. When the minute is over master data does not answer any more: the
contributions are unavailable then, and an employee the branch never had is not found. -/
theorem failures_kept_apart_outage :
    let b : Branch Supply := { now := .startOf .epoch, supply := {} }
    let asking (path : String) : Request := { method := "GET", target := ⟨path.toList, none⟩ }
    let past : List Happening := [.request (asking "/api/v1/contributions/employee/7") [] 0,
      .supplied { outage := some (.timeout "master data") }, .passed 60000]
    let now := after 60000 [] (Cache.emptied b) past
    let status (path : String) : Option Nat :=
      (serveBranch Unsteady.desk (Unsteady.lists 60000) [] 0 (asking path)
        ⟨now, []⟩).1.map Response.status
    status "/api/v1/contributions/employee/7" = some 502 ∧
      status "/api/v1/employees/7" = some 404 := by
  intro b asking past now status
  have hclock : clock now + 60000 < Cache.clockBound := by decide +kernel
  obtain ⟨-, hlists, -⟩ := failures_kept_apart 60000 [] b past [] 0
    (asking "/api/v1/contributions/employee/7") rfl hclock
  obtain ⟨hemployees, -, -⟩ := failures_kept_apart 60000 [] b past [] 0
    (asking "/api/v1/employees/7") rfl hclock
  obtain ⟨response, hresponse, hanswered⟩ :=
    hlists ['7'] "7" (by decide +kernel) (by decide +kernel)
  obtain ⟨response', hresponse', hanswered'⟩ :=
    hemployees ['7'] "7" (by decide +kernel) (by decide +kernel)
  refine ⟨?_, ?_⟩
  · have hmissed : Cache.Missed (Branch.texts.getList (Cache.listKey "7") now).1 :=
      .inl (by decide +kernel)
    have hfailed := hanswered.unavailable.2 ⟨hmissed, _, rfl⟩
    show Option.map _ _ = _
    rw [hresponse, Option.map_some, hfailed]
  · have hfind : (Unsteady.desk.replica.find "7" ⟨now, []⟩).1 = .ok none := by decide +kernel
    have hmissing := hanswered'.missing.2 (Unsteady.nobody_of_failed hfind rfl)
    show Option.map _ _ = _
    rw [hresponse', Option.map_some, hmissing]

end ContributionRegistry.Deployment
