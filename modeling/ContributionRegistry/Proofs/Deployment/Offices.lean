import ContributionRegistry.Proofs.Branch.Requests
import ContributionRegistry.Proofs.Cache.Courses
import ContributionRegistry.Proofs.History
import ContributionRegistry.Proofs.MasterData.EmployeeAnswers
import ContributionRegistry.Proofs.Registry.Validity

/-!
# A registry and a branch in the middle of things

A registry takes requests while a branch of it takes others, the network between them is cut and
mended, and the stores of both fail and work again. Requests to the branch that take several calls
are under way for as long as they take: each waits after each of its calls, and anything may happen
before the next one.

A request that nothing disturbs is its calls in a row (`serveBranch_lookup`), so the branch service
is what takes part here. Only the calls of a lookup of an employee may add to the employees of the
branch: a lookup of contributions and a request that needs no lookup leave them alone (`Aside`).

An `Office` is the pair of services with the visits to the branch so far, and an `Incident` is what
happens next. What every incident does is said in three lemmas: the registry loses nothing
(`Office.grown_step`), a visit is as it was unless it is its turn (`Office.visit_step`), and if it
is, it has made its next call (`Office.visit_call`).
-/

namespace ContributionRegistry.Deployment

open Cache (ListCounter Lookup SwitchedCache)
open Calendar (Timestamp)
open Http (Request Response)
open Registry (Grown Same Sound)
open Replica (Errand Resolution)
open Service
open Web (Url)

/-! ### Requests to the branch -/

/-- What a request to the branch does call by call. -/
inductive Task where
  | employee (key : String) (errand : Errand)
  | contributions (lookup : Lookup)

/-- The lookup that a request needs, if it needs one. -/
def task? (request : Request) : Option Task :=
  if request.method = "GET" ∨ request.method = "HEAD" then
    match BranchResource.ofPath? request.target.path with
    | some (.employee segment) => (key? segment).map fun key ↦ .employee key (.searching key)
    | some (.contributions segment) => (key? segment).map fun key ↦ .contributions (.reading key)
    | _ => none
  else none

/-- The response to a request for an employee when the lookup has come out. -/
def respondTo (request : Request) (key : String) (outcome : Attempt StoreError Resolution) :
    Option Response :=
  let looked : Action Unit BranchFault Employee :=
    Action.next (Action.ofAttempt (outcome.restate BranchFault.store)) (resolved key)
  ((dispatch request (branchAnswer Employee.toJson looked) none ()).1).map
    ((branchOrigins ["*"]).mark request)

/-- A request that is under way. -/
structure Visit where
  /-- The request that came. -/
  request : Request
  /-- How far it is. -/
  task : Task

/-- The response, once the lookup of an employee has come out. -/
def Visit.response? (v : Visit) : Option Response :=
  match v.task with
  | .employee key (.settled outcome) => respondTo v.request key outcome
  | _ => none

/-- The next call of a request that is under way. -/
def Task.step (base : Url) (ttl : Nat) : Task → Pair → Task × Pair
  | .employee key errand, p =>
    let (errand, p) := errand.step (Branch.desk (Pair.masterData base)) p
    (.employee key errand, p)
  | .contributions lookup, p =>
    let (lookup, p) := lookup.step (Branch.lists (Pair.masterData base) ttl) p
    (.contributions lookup, p)

/-! ### What happens -/

/-- A registry and a branch of it, with the requests that the branch has under way. -/
structure Office where
  /-- The registry and the branch. -/
  pair : Pair
  /-- The requests to the branch in the order of their arrival. -/
  visits : List Visit := []

/-- What happens next. -/
inductive Incident where
  /-- A request comes to the registry, or its stores fail or work again. -/
  | registry (event : Registry.Event)
  /-- A request comes to the branch. -/
  | request (request : Request)
  /-- A request that is under way makes its next call. -/
  | call (visit : Nat)
  /-- The network is cut or mended. -/
  | line (outage : Bool)
  /-- From now on other calls on the branch's own employees fail. -/
  | mirror (faults : StoreFaults)
  /-- The cache of the branch is another one now. -/
  | cache (cache : SwitchedCache)
  /-- It is another time of day at the branch. -/
  | clock (now : Timestamp)

/-- Whether a certain request makes a call. -/
def Incident.calls (visit : Nat) : Incident → Bool
  | .call i => i == visit
  | _ => false

namespace Office

/-- A registry without records, and a branch that has no employees yet. -/
def opening (now : Timestamp) : Office where
  pair := { now, supply := {} }

/-- The records of the registry. -/
def registry (o : Office) : Registry := o.pair.supply.registry

/-- The employees of the branch. -/
def mirror (o : Office) : Shelf Employee := o.pair.replica.shelf

/-- One incident. A request that needs no lookup is served at once. -/
def step (base : Url) (ttl : Nat) (o : Office) : Incident → Office
  | .registry event => { o with pair := { o.pair with
      supply := { o.pair.supply with registry := Registry.step ["*"] o.registry event } } }
  | .request request =>
    match task? request with
    | some task => { o with visits := o.visits ++ [⟨request, task⟩] }
    | none => { o with pair := (Pair.serveBranch base ttl request o.pair).2 }
  | .call i =>
    match o.visits[i]? with
    | none => o
    | some v =>
      let (task, pair) := v.task.step base ttl o.pair
      { pair, visits := o.visits.set i { v with task } }
  | .line outage => { o with pair := { o.pair with supply := { o.pair.supply with outage } } }
  | .mirror faults => { o with pair := { o.pair with replica := { o.pair.replica with faults } } }
  | .cache cache => { o with pair := { o.pair with cache } }
  | .clock now => { o with pair := { o.pair with now } }

/-- One incident after another. -/
def run (base : Url) (ttl : Nat) (o : Office) (incidents : List Incident) : Office :=
  History.run (step base ttl) o incidents

end Office

/-! ### A request that nothing disturbs -/

/-- How far a lookup is from coming out. -/
def rank : Errand → Nat
  | .searching _ => 4
  | .asking _ => 3
  | .keeping _ _ => 2
  | .rereading _ _ => 1
  | .settled _ => 0

section

variable {σ : Type} {desk : Replica.Desk σ}

/-- Every call brings a lookup further. -/
theorem rank_step (errand : Errand) (s : σ) :
    rank (errand.step desk s).1 ≤ rank errand - 1 := by
  cases errand with
  | searching key =>
    show rank (Errand.searched key _) ≤ 3
    unfold Errand.searched
    split <;> simp [rank]
  | asking key =>
    show rank (Errand.asked key _ _) ≤ 2
    unfold Errand.asked
    split
    · split <;> simp [rank]
    · simp [rank]
    · simp [rank]
  | keeping key candidate =>
    show rank (Errand.kept key _) ≤ 1
    unfold Errand.kept
    split
    · simp [rank]
    · split <;> simp [rank]
    · simp [rank]
  | rereading key failure =>
    show rank (Errand.reread failure _) ≤ 0
    unfold Errand.reread
    split <;> simp [rank]
  | settled outcome => exact Nat.le_refl 0

/-- So many calls of a lookup. -/
def calls (desk : Replica.Desk σ) : Nat → Errand × σ → Errand × σ
  | 0, looked => looked
  | n + 1, (errand, s) => calls desk n (errand.step desk s)

/-- A lookup that has come out makes no more calls. -/
theorem calls_settled (n : Nat) (outcome : Attempt StoreError Resolution) (s : σ) :
    calls desk n (.settled outcome, s) = (.settled outcome, s) := by
  induction n with
  | zero => rfl
  | succ n ih => exact ih

/-- A lookup that may make enough calls comes out. -/
theorem calls_eq_finish {n : Nat} {errand : Errand} (h : rank errand ≤ n) (s : σ) :
    calls desk n (errand, s) =
      (.settled (errand.finish desk n s).1, (errand.finish desk n s).2) := by
  induction n generalizing errand s with
  | zero =>
    cases errand with
    | settled outcome => rfl
    | _ => simp [rank] at h
  | succ n ih =>
    have hstep : rank (errand.step desk s).1 ≤ rank errand - 1 := rank_step errand s
    have hleft : rank (errand.step desk s).1 ≤ n := by omega
    cases errand with
    | settled outcome => exact calls_settled _ outcome s
    | _ => exact ih hleft _

/-- A lookup in one go is its calls in a row. -/
theorem calls_resolve (desk : Replica.Desk σ) (key : String) (s : σ) :
    calls desk 4 (.searching key, s) =
      (.settled (Replica.resolve desk key s).1, (Replica.resolve desk key s).2) :=
  calls_eq_finish (Nat.le_refl 4) s

end

/-- What a request that needs a lookup of an employee looks like. -/
theorem task?_employee {request : Request} {key : String} {errand : Errand}
    (h : task? request = some (.employee key errand)) :
    (request.method = "GET" ∨ request.method = "HEAD") ∧ errand = .searching key ∧
      ∃ segment, BranchResource.ofPath? request.target.path = some (.employee segment) ∧
        key? segment = some key := by
  unfold task? at h
  split at h
  · next hmethod =>
    split at h
    · next segment hpath =>
      obtain ⟨k, hk, heq⟩ := Option.map_eq_some_iff.1 h
      cases heq
      exact ⟨hmethod, rfl, segment, hpath, hk⟩
    · next segment hpath =>
      obtain ⟨k, -, heq⟩ := Option.map_eq_some_iff.1 h
      cases heq
    · cases h
  · cases h

/-- **A request for an employee that nothing disturbs is the lookup in one go**, and the response to
what it comes out with. -/
theorem serveBranch_lookup (base : Url) (ttl : Nat) {request : Request} {key : String}
    {errand : Errand} (h : task? request = some (.employee key errand)) (p : Pair) :
    let looked := Replica.resolve (Branch.desk (Pair.masterData base)) key p
    Pair.serveBranch base ttl request p = (respondTo request key looked.1, looked.2) := by
  intro looked
  obtain ⟨hmethod, -, segment, hpath, hkey⟩ := task?_employee h
  have hnot : request.method ≠ "OPTIONS" := by rcases hmethod with h | h <;> rw [h] <;> decide
  have hreading : serveReading (Branch.desk (Pair.masterData base))
      (Branch.lists (Pair.masterData base) ttl) 0 (.employee segment) =
      branchAnswer Employee.toJson (resolveEmployee (Branch.desk (Pair.masterData base)) key) := by
    show withKey "rssb_number" segment (fun key ↦ branchAnswer Employee.toJson
      (resolveEmployee (Branch.desk (Pair.masterData base)) key)) = _
    rw [withKey, hkey]
  have hserves : Pair.serveBranch base ttl request p =
      let served := dispatch request (branchAnswer Employee.toJson
        (resolveEmployee (Branch.desk (Pair.masterData base)) key)) none p
      (served.1.map ((branchOrigins ["*"]).mark request), served.2) := by
    simp only [Pair.serveBranch, serveBranch, serveUnder, if_neg hnot, hpath, hreading]
  have hlooked := resolveEmployee_eq (Branch.desk (Pair.masterData base)) key p
  rw [hserves]
  rcases hmethod with hmethod | hmethod <;>
    simp only [dispatch, hmethod, branchAnswer, answer, hlooked, respondTo, looked]

/-! ### What leaves the employees of the branch alone -/

/-- The branch has the employees that it had, and the registry has not lost a record. -/
structure Aside (p p' : Pair) : Prop where
  /-- The replica has the records it had. -/
  mirror : p'.replica.shelf = p.replica.shelf
  /-- The registry loses nothing. -/
  registry : Grown p.supply.registry p'.supply.registry
  /-- The records of the registry stay valid. -/
  sound : Sound p.supply.registry → Sound p'.supply.registry

/-- What leaves the replica and the line as they are goes on aside. -/
theorem Aside.of_unchanged {p p' : Pair} (hmirror : p'.replica.shelf = p.replica.shelf)
    (h : Line.Unchanged p.supply p'.supply) : Aside p p' :=
  ⟨hmirror, h.registry.grown, fun hsound ↦ hsound.of_same h.registry⟩

theorem Aside.refl (p : Pair) : Aside p p := .of_unchanged rfl (.refl p.supply)

/-- Reading a list from the cache of the branch leaves all else alone. -/
theorem getList_cache (key : String) (p : Pair) :
    ∃ cache, (Branch.texts.getList key p).2 = { p with cache } := by
  refine ⟨(SwitchedCache.texts.get key p.cache).2, ?_⟩
  have hget : Branch.texts.get key p = ((SwitchedCache.texts.get key p.cache).1,
      { p with cache := (SwitchedCache.texts.get key p.cache).2 }) := rfl
  rw [TextCache.getList, Action.next, hget]
  cases (SwitchedCache.texts.get key p.cache).1 <;> rfl

/-- A call of a lookup of contributions. -/
theorem aside_lookup (base : Url) (ttl : Nat) (lookup : Lookup) (p : Pair) :
    Aside p (lookup.step (Branch.lists (Pair.masterData base) ttl) p).2 := by
  cases lookup with
  | reading key =>
    obtain ⟨cache, hcache⟩ := getList_cache (Cache.listKey key) p
    rcases hread : Branch.texts.getList (Cache.listKey key) p with ⟨outcome, p'⟩
    obtain rfl : p' = { p with cache } := by rw [← hcache, hread]
    simp only [Lookup.step, Branch.lists, hread]
    split <;> next heq => cases heq; exact .of_unchanged rfl (.refl p.supply)
  | fetching key =>
    have haside : Aside p ((Branch.source (Pair.masterData base)).contributions key p).2 :=
      .of_unchanged rfl (Line.unchanged_fetch Contribution.listOfJson
        (Endpoint.contributions base).text (Endpoint.contributionsOf base key) p.supply)
    simp only [Lookup.step, Branch.lists]
    split <;> next heq => rw [heq] at haside; exact haside
  | writing key list =>
    have haside : Aside p (Branch.texts.setList (Cache.listKey key) list ttl p).2 :=
      .of_unchanged rfl (.refl p.supply)
    simp only [Lookup.step, Branch.lists]
    split <;> next heq => rw [heq] at haside; exact haside
  | settled outcome => exact Aside.refl p

/-- What is not read is not allowed. -/
theorem dispatch_of_not_reading {σ : Type} {request : Request}
    (h : ¬ (request.method = "GET" ∨ request.method = "HEAD")) (get : Serving σ) :
    dispatch request get none = serve (.notAllowed "GET,HEAD") := by
  unfold dispatch
  split
  · next hmethod => exact absurd (.inl hmethod) h
  · next hmethod => exact absurd (.inr hmethod) h
  · next heq => cases heq
  · next heq _ _ _ => cases heq
  · rfl

/-- A request goes on aside if reading does. -/
theorem aside_dispatch {request : Request} {get : Serving Pair} {p : Pair}
    (h : Aside p (get p).2) : Aside p (dispatch request get none p).2 := by
  rcases Registry.dispatch_cases request get none with hget | hget | ⟨response, hget⟩ | ⟨-, hpost⟩
  · rwa [hget]
  · rwa [hget]
  · rw [hget]
    exact Aside.refl p
  · cases hpost

/-- A request that needs no lookup. -/
theorem aside_serveBranch (base : Url) (ttl : Nat) {request : Request} (h : task? request = none)
    (p : Pair) : Aside p (Pair.serveBranch base ttl request p).2 := by
  simp only [Pair.serveBranch, serveBranch, serveUnder]
  split
  · exact Aside.refl p
  · cases hpath : BranchResource.ofPath? request.target.path with
    | none => exact Aside.refl p
    | some resource =>
      dsimp only
      by_cases hmethod : request.method = "GET" ∨ request.method = "HEAD"
      · refine aside_dispatch ?_
        rw [task?, if_pos hmethod, hpath] at h
        -- what is left of the resources are those that no lookup stands behind, and keys that
        -- cannot be read
        cases resource with
        | health => exact Aside.refl p
        | employees =>
          have hlist : (p.replica.list Shelf.employees).2.shelf = p.replica.shelf := by
            unfold SwitchedShelf.list
            split <;> rfl
          exact .of_unchanged hlist (.refl p.supply)
        | employee segment =>
          have hkey : key? segment = none := Option.map_eq_none_iff.1 h
          rw [serveReading_unreadable hkey (.inl rfl)]
          exact Aside.refl p
        | contributions segment =>
          have hkey : key? segment = none := Option.map_eq_none_iff.1 h
          rw [serveReading_unreadable hkey (.inr rfl)]
          exact Aside.refl p
        | stats =>
          have haside : Aside p (Branch.texts.count (Cache.listKeyStart ++ "*") p).2 :=
            .of_unchanged rfl (.refl p.supply)
          show Aside p (Cache.stats (Branch.lists (Pair.masterData base) ttl) p).2
          simp only [Cache.stats, Branch.lists]
          split <;> next heq => rw [heq] at haside; exact haside
      · rw [dispatch_of_not_reading hmethod]
        exact Aside.refl p

/-! ### What every incident leaves alone -/

/-- A call of a lookup of an employee leaves the records of the registry as they are. -/
theorem same_errand (base : Url) (errand : Errand) (p : Pair) : Same p.supply.registry
    (errand.step (Branch.desk (Pair.masterData base)) p).2.supply.registry := by
  cases errand with
  | searching key => exact Same.refl _
  | asking key =>
    exact (Line.unchanged_fetch RemoteEmployee.ofJson (Endpoint.employee base key).text
      (Endpoint.employee base key) p.supply).registry
  | keeping key candidate => exact Same.refl _
  | rereading key failure => exact Same.refl _
  | settled outcome => exact Same.refl _

namespace Office

variable (base : Url) (ttl : Nat) {o : Office}

/-- The registry loses no record. -/
theorem grown_step (o : Office) (incident : Incident) :
    Grown o.registry (o.step base ttl incident).registry := by
  cases incident with
  | registry event => exact Registry.grown_step event
  | request request =>
    cases htask : task? request with
    | none =>
      simp only [step, htask]
      exact (aside_serveBranch base ttl htask o.pair).registry
    | some task =>
      simp only [step, htask]
      exact (Same.refl _).grown
  | call i =>
    cases hv : o.visits[i]? with
    | none =>
      simp only [step, hv]
      exact (Same.refl _).grown
    | some v =>
      simp only [step, hv]
      cases v.task with
      | employee key errand => exact (same_errand base errand o.pair).grown
      | contributions lookup => exact (aside_lookup base ttl lookup o.pair).registry
  | line outage => exact (Same.refl _).grown
  | mirror faults => exact (Same.refl _).grown
  | cache cache => exact (Same.refl _).grown
  | clock now => exact (Same.refl _).grown

/-- A request that is under way waits until it makes its next call. -/
theorem visit_step {i : Nat} {v : Visit} (hv : o.visits[i]? = some v) {incident : Incident}
    (h : incident.calls i = false) : (o.step base ttl incident).visits[i]? = some v := by
  cases incident with
  | registry event => exact hv
  | request request =>
    cases htask : task? request with
    | none =>
      simp only [step, htask]
      exact hv
    | some task =>
      obtain ⟨hi, -⟩ := List.getElem?_eq_some_iff.1 hv
      simp only [step, htask, List.getElem?_append_left hi, hv]
  | call j =>
    have hne : j ≠ i := by simpa [Incident.calls] using h
    cases hw : o.visits[j]? with
    | none =>
      simp only [step, hw]
      exact hv
    | some w => simp only [step, hw, List.getElem?_set_ne hne, hv]
  | line outage => exact hv
  | mirror faults => exact hv
  | cache cache => exact hv
  | clock now => exact hv

/-- The next call of a request that is under way. -/
theorem visit_call {i : Nat} {v : Visit} (hv : o.visits[i]? = some v) :
    (o.step base ttl (.call i)).visits[i]? =
      some { v with task := (v.task.step base ttl o.pair).1 } := by
  obtain ⟨hi, -⟩ := List.getElem?_eq_some_iff.1 hv
  simp only [step, hv, List.getElem?_set_self hi]

end Office

end ContributionRegistry.Deployment
