import ContributionRegistry.Cache.ContributionLists
import ContributionRegistry.Service.Basic

/-!
# Faults of the branch service

What a request to a branch can fail of, with the status, code and wording of the response. Trouble
with master data in looking up an employee is no fault of its own: the employee is then not found.
In looking up contributions it is one, and the only one with the status 502. Failures of the replica
and of the cache are of the service itself.
-/

namespace ContributionRegistry.Service

open Http (Response)

/-- Why a request to a branch fails. -/
inductive BranchFault where
  /-- There is no such record. -/
  | notFound (entity key : String)
  /-- Master data could not be had. -/
  | unavailable (cause : RemoteError)
  /-- The cache has failed. -/
  | cache (cause : StoreError)
  /-- The replica has failed. -/
  | store (cause : StoreError)
  deriving DecidableEq, Repr

namespace BranchFault

/-- The fault that a failed lookup of contributions makes. -/
def ofLists : Cache.ListError → BranchFault
  | .source cause => .unavailable cause
  | .store cause => .cache cause

/-- The status of the response. -/
def status : BranchFault → Nat
  | .notFound .. => 404
  | .unavailable _ => 502
  | .cache _ | .store _ => 500

/-- The code in the body. -/
def code : BranchFault → String
  | .notFound .. => "NOT_FOUND"
  | .unavailable _ => "UPSTREAM_UNAVAILABLE"
  | .cache _ => "CACHE_ERROR"
  | .store _ => "PERSISTENCE_ERROR"

/-- The wording in the body. -/
def message : BranchFault → String
  | .notFound entity key => s!"Entity not found: {entity} with key '{key}'"
  | .unavailable cause => s!"Master data unavailable: {cause.message}"
  | .cache cause => s!"Cache error: {cause.message}"
  | .store cause => s!"Persistence error: {cause.message}"

/-- The response to the fault. -/
def response (f : BranchFault) : Response := faultResponse f.status f.code f.message

end BranchFault

end ContributionRegistry.Service
