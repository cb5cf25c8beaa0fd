import ContributionRegistry.Records.Wire
import ContributionRegistry.Replica.Resolution
import ContributionRegistry.Service.Branch.Fault
import ContributionRegistry.Service.Branch.Resource

/-!
# The branch service

Serves employees out of a replica, which fills on demand, and contributions out of a cache. Nothing
can be handed in here.

The service works on any state that has a desk and a counter (`serveBranch`), so it is told once for
a branch in memory and for any other. Each resource is one action (`serveReading`); what its
outcomes are responded with is in the table of faults.
-/

namespace ContributionRegistry.Service

open Cache (ListCounter Stats)
open Http (OriginPolicy Request)
open Json (member)
open Replica (Desk Resolution)

/-- The name of the branch service. -/
def branchName : String := "payroll-imisanzu-api"

variable {σ : Type}

/-- The employee that a lookup came out with, or the fault that there is none. -/
def resolved (key : String) (r : Resolution) : Action σ BranchFault Employee :=
  match r.employee? with
  | some e => Action.succeed e
  | none => Action.refuse (.notFound "employee" key)

/-- Looks up an employee. -/
def resolveEmployee (desk : Desk σ) (key : String) : Action σ BranchFault Employee :=
  ((Replica.resolve desk key).finish (Attempt.restate BranchFault.store)).next (resolved key)

/-- Lists the employees in the replica. -/
def replicaEmployees (desk : Desk σ) : Action σ BranchFault (List Employee) :=
  desk.replica.all.finish (Attempt.restate BranchFault.store)

/-- Looks up the contributions for an employee. -/
def employeeContributions (lists : ListCounter σ) (key : String) :
    Action σ BranchFault (List Contribution) :=
  (Cache.fetch lists key).finish (Attempt.restate BranchFault.ofLists)

/-- Figures about the cache. -/
def cacheStats (lists : ListCounter σ) : Action σ BranchFault Stats :=
  (Cache.stats lists).finish (Attempt.restate BranchFault.ofLists)

/-- Figures about the cache as JSON. -/
def statsJson (s : Stats) : Json :=
  .object [member "hit" (.ofNat s.hits), member "miss" (.ofNat s.misses),
    member "keys" (.ofNat s.keys)]

/-- Serves what an action gives. -/
def branchAnswer {α : Type} : (α → Json) → Action σ BranchFault α → Serving σ :=
  answer BranchFault.response 200

/-- Serves a request for a resource that is read by `get`. -/
def serveReading (desk : Desk σ) (lists : ListCounter σ) (uptime : Nat) :
    BranchResource → Serving σ
  | .health => serve (.ofJson 200 (healthReport branchName uptime))
  | .employees => branchAnswer (listJson Employee.toJson) (replicaEmployees desk)
  | .employee segment => withKey "rssb_number" segment fun key ↦
      branchAnswer Employee.toJson (resolveEmployee desk key)
  | .contributions segment => withKey "rssb_number" segment fun key ↦
      branchAnswer Contribution.listToJson (employeeContributions lists key)
  | .stats => branchAnswer statsJson (cacheStats lists)

/-- Which origins the branch service grants what. -/
def branchOrigins (origins : List String) : OriginPolicy := ⟨origins, "GET,OPTIONS"⟩

/-- Serves a request. -/
def serveBranch (desk : Desk σ) (lists : ListCounter σ) (origins : List String) (uptime : Nat)
    (request : Request) : Serving σ :=
  serveUnder (branchOrigins origins) BranchResource.methods
    (fun resource ↦ dispatch request (serveReading desk lists uptime resource) none)
    (BranchResource.ofPath? request.target.path) request

end ContributionRegistry.Service
