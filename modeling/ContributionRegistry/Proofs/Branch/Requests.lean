import ContributionRegistry.Proofs.Cache.Staleness
import ContributionRegistry.Proofs.Registry.Answers
import ContributionRegistry.Proofs.Replica.Outcomes
import ContributionRegistry.Service.Branch.Serve

/-!
# Requests to a branch

A question for one of the resources of a branch is answered with what the lookup behind it comes out
with (`serveReading_employee`, `serveReading_contributions`, `serveReading_stats`), whatever the
branch is made of, and nothing else is done to the branch. What every reading keeps, every request
keeps (`serveBranch_keeps`).

The branch considered from there on is `Unsteady`: the switches of its replica move between the
calls of one request. Its lookups of contributions are those of the branch inside
(`Unsteady.fetch_eq`), because no call on the cache or on master data looks at those switches; what
is known of lookups in a cache therefore need not be proved again. Its lookups of employees are
those of the module about their outcomes.
-/

namespace ContributionRegistry

open Deployment (Branch)
open Http (OriginPolicy Request Response)

namespace Service

variable {σ : Type} {desk : Replica.Desk σ} {lists : Cache.ListCounter σ} {origins : List String}
  {uptime : Nat} {request : Request} {s : σ}

/-! ### Any branch -/

/-- A question for one of the resources of a branch. -/
theorem serveBranch_get {resource : BranchResource} (hmethod : request.method = "GET")
    (hpath : BranchResource.ofPath? request.target.path = some resource) :
    serveBranch desk lists origins uptime request s =
      ((serveReading desk lists uptime resource s).1.map ((branchOrigins origins).mark request),
        (serveReading desk lists uptime resource s).2) := by
  have hnot : request.method ≠ "OPTIONS" := ne_of_eq_of_ne hmethod (by decide)
  simp only [serveBranch, serveUnder, if_neg hnot, hpath,
    Deployment.Registry.dispatch_get hmethod]

/-- What every reading keeps, every request keeps. -/
theorem serveBranch_keeps (Keeps : σ → Prop) (h : Keeps s)
    (hreading : ∀ resource, Keeps (serveReading desk lists uptime resource s).2) :
    Keeps (serveBranch desk lists origins uptime request s).2 := by
  unfold serveBranch serveUnder
  split
  · exact h
  · rcases BranchResource.ofPath? request.target.path with _ | resource
    · exact h
    · rcases Deployment.Registry.dispatch_cases request (serveReading desk lists uptime resource)
        none with hget | hget | ⟨response, hget⟩ | ⟨-, hpost⟩
      · simp only [hget]
        exact hreading resource
      · simp only [hget]
        exact hreading resource
      · simp only [hget]
        exact h
      · cases hpost

/-- What is made of a lookup needs no state. -/
theorem resolveEmployee_eq (desk : Replica.Desk σ) (key : String) (s : σ) :
    let looked := Replica.resolve desk key s
    resolveEmployee desk key s =
      ((Action.next (Action.ofAttempt (looked.1.restate BranchFault.store)) (resolved key) ()).1,
        looked.2) := by
  intro looked
  rcases hlooked : looked with ⟨outcome, s'⟩
  simp only [resolveEmployee, Action.finish, Action.next, Action.ofAttempt,
    show Replica.resolve desk key s = (outcome, s') from hlooked]
  cases outcome with
  | error e => rfl
  | ok r =>
    simp only [Attempt.restate_ok, resolved]
    cases r.employee? <;> rfl

/-- The response to what a lookup of an employee came out with. -/
def employeeResponse (key : String) : Attempt StoreError Replica.Resolution → Option Response
  | .ok r => some (match r.employee? with
    | some e => .ofJson 200 e.toJson
    | none => (BranchFault.notFound "employee" key).response)
  | .error (.refused x) => some (BranchFault.store x).response
  | .error .abandoned => none

/-- The response to what came out of the cache of contribution lists. -/
def cacheResponse {α : Type} (toJson : α → Json) : Attempt Cache.ListError α → Option Response
  | .ok a => some (.ofJson 200 (toJson a))
  | .error (.refused x) => some (BranchFault.ofLists x).response
  | .error .abandoned => none

/-- A response that rests on the cache is made of the outcome alone. -/
theorem answer_of_cache {α : Type} (toJson : α → Json) (act : Action σ Cache.ListError α) (s : σ) :
    branchAnswer toJson (act.finish (Attempt.restate BranchFault.ofLists)) s =
      (cacheResponse toJson (act s).1, (act s).2) := by
  rcases hact : act s with ⟨(x | _) | a, s'⟩
  all_goals
    simp only [branchAnswer, answer, Action.finish, hact]
    rfl

section

variable {segment : List Char} {key : String}

/-- A question for an employee is answered with what the lookup comes out with. -/
theorem serveReading_employee (hkey : key? segment = some key) :
    serveReading desk lists uptime (.employee segment) s =
      (employeeResponse key (Replica.resolve desk key s).1, (Replica.resolve desk key s).2) := by
  show withKey "rssb_number" segment
    (fun key ↦ branchAnswer Employee.toJson (resolveEmployee desk key)) s = _
  rw [withKey, hkey]
  simp only [branchAnswer, answer, resolveEmployee_eq desk key s]
  rcases (Replica.resolve desk key s).1 with (x | _) | r
  · rfl
  · rfl
  · simp only [employeeResponse, Attempt.restate_ok, Action.next, Action.ofAttempt, resolved]
    rcases r.employee? with _ | e
    · rfl
    · rfl

/-- A question for contributions is answered with what the lookup comes out with. -/
theorem serveReading_contributions (hkey : key? segment = some key) :
    serveReading desk lists uptime (.contributions segment) s =
      (cacheResponse Contribution.listToJson (Cache.fetch lists key s).1,
        (Cache.fetch lists key s).2) := by
  show withKey "rssb_number" segment
    (fun key ↦ branchAnswer Contribution.listToJson (employeeContributions lists key)) s = _
  rw [withKey, hkey]
  exact answer_of_cache Contribution.listToJson (Cache.fetch lists key) s

/-- A question for the figures is answered with them. -/
theorem serveReading_stats : serveReading desk lists uptime .stats s =
    (cacheResponse statsJson (Cache.stats lists s).1, (Cache.stats lists s).2) :=
  answer_of_cache statsJson (Cache.stats lists) s

/-- Where a segment stands for no text, nothing is looked up. -/
theorem serveReading_unreadable {resource : BranchResource} (hkey : key? segment = none)
    (hresource : resource = .employee segment ∨ resource = .contributions segment) :
    serveReading desk lists uptime resource s = (some (unreadableKey "rssb_number"), s) := by
  rcases hresource with rfl | rfl
  all_goals
    simp only [serveReading, withKey, hkey]
    rfl

end

end Service

/-! ### A branch whose switches move -/

namespace Replica.Unsteady

open Cache (ListCounter Lookup)

/-- What is done to the branch alone. -/
def inside {ε α : Type} (act : Action (Branch Supply) ε α) : Action Unsteady ε α :=
  Action.within branch (fun branch u ↦ { u with branch }) act

/-- Where contribution lists are looked up. -/
def lists (ttl : Nat) : ListCounter Unsteady where
  cache :=
    { get := fun key ↦ inside (Branch.texts.get key)
      set := fun key text ttl ↦ inside (Branch.texts.set key text ttl)
      count := fun pattern ↦ inside (Branch.texts.count pattern) }
  source := source
  ttl := ttl
  tally u := u.branch.tally
  setTally tally u := { u with branch := { u.branch with tally } }

/-- Reading the cache is done to the branch inside. -/
theorem getList_eq (ttl : Nat) (key : String) :
    (lists ttl).cache.getList key = inside (Branch.texts.getList key) := by
  funext u
  rcases hget : Branch.texts.get key u.branch with ⟨(x | _) | found, b⟩
  all_goals simp only [lists, TextCache.getList, Action.next, inside, Action.within, hget,
    Action.ofAttempt]

theorem hit_eq (ttl : Nat) (u : Unsteady) : (lists ttl).hit u =
    { u with branch := (Branch.lists Supply.masterData ttl).hit u.branch } := rfl

theorem miss_eq (ttl : Nat) (u : Unsteady) : (lists ttl).miss u =
    { u with branch := (Branch.lists Supply.masterData ttl).miss u.branch } := rfl

/-- A lookup of contributions takes its steps in the branch. -/
theorem step_eq (ttl : Nat) (lookup : Lookup) (u : Unsteady) :
    lookup.step (lists ttl) u =
      ((lookup.step (Branch.lists Supply.masterData ttl) u.branch).1,
        { u with branch := (lookup.step (Branch.lists Supply.masterData ttl) u.branch).2 }) := by
  match lookup with
  | .reading key =>
    rcases hread : Branch.texts.getList (Cache.listKey key) u.branch with ⟨(x | _) | _ | list, b⟩
    all_goals
      have hread' : (Branch.lists Supply.masterData ttl).cache.getList (Cache.listKey key)
        u.branch = _ := hread
      simp only [Lookup.step, getList_eq, inside, Action.within, hread, hread', hit_eq, miss_eq]
  | .fetching key =>
    rcases htold : (Branch.source Supply.masterData).contributions key u.branch with
      ⟨x | list, b⟩
    all_goals simp only [Lookup.step, lists, Branch.lists, source, Action.within, htold]
  | .writing key list =>
    rcases hset : Branch.texts.set (Cache.listKey key) (TextCache.encodeList list) ttl u.branch with
      ⟨(x | _) | _, b⟩
    all_goals simp only [Lookup.step, lists, Branch.lists, TextCache.setList, inside,
      Action.within, hset]
  | .settled outcome => rfl

/-- A lookup that nobody disturbs goes on in the branch inside. -/
theorem finish_eq (ttl steps : Nat) (lookup : Lookup) (u : Unsteady) :
    Lookup.finish (lists ttl) steps lookup u =
      ((Lookup.finish (Branch.lists Supply.masterData ttl) steps lookup u.branch).1,
        { u with branch :=
          (Lookup.finish (Branch.lists Supply.masterData ttl) steps lookup u.branch).2 }) := by
  induction steps generalizing lookup u with
  | zero =>
    match lookup with
    | .reading _ | .fetching _ | .writing _ _ | .settled _ => rfl
  | succ steps ih =>
    match lookup with
    | .settled outcome => rfl
    | .reading _ | .fetching _ | .writing _ _ => simp only [Lookup.finish, step_eq, ih]

/-- **A lookup of contributions is one in the branch.** -/
theorem fetch_eq (ttl : Nat) (key : String) (u : Unsteady) :
    Cache.fetch (lists ttl) key u =
      ((Cache.lookup ttl key u.branch).1,
        { u with branch := (Cache.lookup ttl key u.branch).2 }) := by
  simp only [Cache.fetch, Cache.lookup, Action.finish, finish_eq]

theorem stats_eq (ttl : Nat) (u : Unsteady) :
    Cache.stats (lists ttl) u =
      ((Cache.stats (Branch.lists Supply.masterData ttl) u.branch).1,
        { u with branch := (Cache.stats (Branch.lists Supply.masterData ttl) u.branch).2 }) := by
  rcases hcount : Branch.texts.count (Cache.listKeyStart ++ "*") u.branch with ⟨x | keys, b⟩
  all_goals simp only [Cache.stats, lists, Branch.lists, inside, Action.within, hcount]

/-- The cache is no affair of the switches of the replica. -/
theorem cache_met (u : Unsteady) : u.met.cache = u.branch.cache := by
  obtain ⟨faults, hmet⟩ := u.met_eq
  rw [hmet]

/-- Nor is it of a lookup of an employee. -/
theorem cache_resolve (key : String) (u : Unsteady) :
    (resolve desk key u).2.branch.cache = u.branch.cache :=
  resolve_keeps desk (fun u' ↦ u'.branch.cache = u.branch.cache)
    (fun _ u' h ↦ (cache_met u').trans h) (fun _ _ h ↦ h) (fun _ u' h ↦ (cache_met u').trans h)
    key rfl

end Replica.Unsteady

end ContributionRegistry
