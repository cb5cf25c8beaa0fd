import ContributionRegistry.Records.Intake
import ContributionRegistry.Service.Basic
import ContributionRegistry.Store.Error

/-!
# Faults of the registry service

What a request to the registry can fail of, with the status, code and wording of the response.

A body or a query that cannot be read is invalid input; one that can be read but breaks a rule is
unacceptable (`Objection`). Both have the status 400 and differ in the code. Of the failures of a
store a conflict alone is told as what it is (`RegistryFault.ofStore`).
-/

namespace ContributionRegistry.Service

open Http (Response)

/-- Why what is handed in is unacceptable. -/
inductive Objection where
  | field (reason : InvalidField)
  | period (reason : InvalidPeriod)
  | amount (reason : InvalidAmount)
  deriving DecidableEq, Repr

/-- The wording of each objection. -/
def Objection.message : Objection → String
  | .field reason => reason.message
  | .period reason => reason.message
  | .amount reason => reason.message

/-- Why a request to the registry fails. -/
inductive RegistryFault where
  | notFound (entity key : String)
  | invalidInput (reason : String)
  | unacceptable (objection : Objection)
  | conflict (entity key : String)
  | store (cause : StoreError)
  deriving DecidableEq, Repr

namespace RegistryFault

/-- The fault that a failure of the store makes. -/
def ofStore : StoreError → RegistryFault
  | .conflict entity key => .conflict entity key
  | other => .store other

/-- The status of the response. -/
def status : RegistryFault → Nat
  | .notFound .. => 404
  | .invalidInput _ | .unacceptable _ => 400
  | .conflict .. => 409
  | .store _ => 500

/-- The code in the body. -/
def code : RegistryFault → String
  | .notFound .. => "NOT_FOUND"
  | .invalidInput _ => "INVALID_INPUT"
  | .unacceptable _ => "VALIDATION_ERROR"
  | .conflict .. => "CONFLICT"
  | .store _ => "PERSISTENCE_ERROR"

/-- The wording in the body. -/
def message : RegistryFault → String
  | .notFound entity key => s!"Entity not found: {entity} with key '{key}'"
  | .invalidInput reason => s!"Invalid input: {reason}"
  | .unacceptable objection => objection.message
  | .conflict entity key => s!"{entity} with key '{key}' already exists"
  | .store cause => s!"Persistence error: {cause.message}"

/-- The response to the fault. -/
def response (f : RegistryFault) : Response := faultResponse f.status f.code f.message

end RegistryFault

end ContributionRegistry.Service
