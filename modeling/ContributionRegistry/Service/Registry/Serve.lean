import ContributionRegistry.Http.MediaType
import ContributionRegistry.Http.Origins
import ContributionRegistry.Records.Wire
import ContributionRegistry.Service.Registry.Fault
import ContributionRegistry.Service.Registry.Resource
import ContributionRegistry.Store.Basic
import ContributionRegistry.Web.Form

/-!
# The registry service

Serves the records of a store. New records are decoded, checked and only then stored, so a body that
cannot be used never reaches the store. Identifier and time of a new record come with the request.

**Handing in** is one definition for the three kinds of record (`create`): decode the body, check
what it has, enter it with the stamp, store it. The kinds differ in how a record is decoded, checked
and entered.

**Listing** contributions takes a query (`ListingQuery`). A name that comes twice is refused, names
that are not known are passed over, and what the names mean together is for the filter to say.
-/

namespace ContributionRegistry.Service

open Http (MediaType OriginPolicy Request Response)

/-- The name of the registry service. -/
def registryName : String := "payroll-oracle-api"

/-! ### Bodies and queries -/

/-- Whether a request says that its body is JSON. -/
def saysJson (request : Request) : Bool :=
  match (request.header? "content-type").bind MediaType.parse? with
  | some type => type.isJson
  | none => false

/-- What is wrong with a body. -/
def bodyComplaint : Json.DecodeFault → String
  | .malformed => "Failed to parse the request body as JSON"
  | .unfit place complaint =>
    let spot := match place with
      | some place => s!"{place.text}: "
      | none => ""
    s!"Failed to deserialize the JSON body into the target type: {spot}{complaint.message}"

/-- The bytes of the longest body that is taken: two mebibytes. -/
def bodyBound : Nat := 2097152

/-- Decodes the body of a request. -/
def decodeBody {α : Type} (decode : Json → Json.Decoded α) (request : Request) :
    Attempt RegistryFault α :=
  if !saysJson request then
    .refuse (.invalidInput "Expected request with `Content-Type: application/json`")
  else if bodyBound < request.body.length then
    .refuse (.invalidInput "Failed to buffer the request body: length limit exceeded")
  else
    (Json.decode decode (Text.Utf8.decode request.body)).restate fun f ↦
      .invalidInput (bodyComplaint f)

/-- The values that a query gives for the three criteria of a listing. -/
structure ListingQuery where
  /-- The employee, if the query names one. -/
  rssbNumber : Option String := none
  /-- The period as written, if the query names one. -/
  period : Option String := none
  /-- The employer, if the query names one. -/
  matricule : Option String := none
  deriving DecidableEq, Repr

/-- Adds a pair of the query. A criterion that is there already is returned as the error; other
names are passed over. -/
def ListingQuery.add (q : ListingQuery) : String × String → Except String ListingQuery
  | ("rssbNumber", value) =>
    if q.rssbNumber.isSome then .error "rssbNumber" else .ok { q with rssbNumber := some value }
  | ("period", value) =>
    if q.period.isSome then .error "period" else .ok { q with period := some value }
  | ("matricule", value) =>
    if q.matricule.isSome then .error "matricule" else .ok { q with matricule := some value }
  | _ => .ok q

/-- Reads the query of a listing. The error is the criterion given twice. -/
def ListingQuery.read (target : Http.Target) : Except String ListingQuery :=
  (Web.Form.decode (Text.Utf8.encode (target.query.getD []))).foldlM ListingQuery.add {}

/-! ### Handlers -/

variable {σ : Type}

/-- An action of a store, with its failures as faults. -/
def stored {α : Type} (act : Action σ StoreError α) : Action σ RegistryFault α :=
  act.finish (Attempt.restate RegistryFault.ofStore)

/-- Serves what an action gives. -/
def registryAnswer {α : Type} : Nat → (α → Json) → Action σ RegistryFault α → Serving σ :=
  answer RegistryFault.response

/-- The record under a key, or the fault that there is none. -/
def lookup {ρ : Type} (entity : String) (store : RecordStore σ ρ) (key : String) :
    Action σ RegistryFault ρ :=
  (stored (store.find key)).next fun
    | some r => Action.succeed r
    | none => Action.refuse (.notFound entity key)

/-- Decodes, checks and stores what is handed in. -/
def create {α ρ : Type} (decode : Json → Json.Decoded α) (validate : α → Except InvalidField Unit)
    (enter : α → Stamp → ρ) (store : ρ → Action σ StoreError ρ) (stamp : Stamp)
    (request : Request) : Action σ RegistryFault ρ :=
  match decodeBody decode request with
  | .error e => Action.ofAttempt (.error e)
  | .ok input =>
    match validate input with
    | .error reason => Action.refuse (.unacceptable (.field reason))
    | .ok () => stored (store (enter input stamp))

/-- Stores a new employee. -/
def createEmployee (stores : MasterStore σ) : Stamp → Request → Action σ RegistryFault Employee :=
  create NewEmployee.ofJson NewEmployee.validate NewEmployee.enter stores.employees.create

/-- Stores a new employer. -/
def createEmployer (stores : MasterStore σ) : Stamp → Request → Action σ RegistryFault Employer :=
  create NewEmployer.ofJson NewEmployer.validate NewEmployer.enter stores.employers.create

/-- Stores a new contribution. -/
def createContribution (stores : MasterStore σ) :
    Stamp → Request → Action σ RegistryFault Contribution :=
  create NewContribution.ofJson NewContribution.validate NewContribution.enter
    stores.contributions.create

/-- Lists the contributions that a filter lets through; the filter may not be readable. -/
def listContributions (stores : MasterStore σ) :
    Except InvalidPeriod ContributionFilter → Action σ RegistryFault (List Contribution)
  | .ok filter => stored (stores.contributions.find filter)
  | .error reason => Action.refuse (.unacceptable (.period reason))

/-- Serves the listing of contributions. -/
def serveContributions (stores : MasterStore σ) (request : Request) : Serving σ :=
  match ListingQuery.read request.target with
  | .error name =>
    serve (.ofText 400 s!"Failed to deserialize query string: duplicate field `{name}`")
  | .ok q => registryAnswer 200 Contribution.listToJson (listContributions stores
      (ContributionFilter.ofParams q.rssbNumber q.period q.matricule))

/-! ### The service -/

/-- Serves a request to a resource. -/
def serveResource (stores : MasterStore σ) (stamp : Stamp) (uptime : Nat) (request : Request) :
    RegistryResource → Serving σ
  | .health => dispatch request (serve (.ofJson 200 (healthReport registryName uptime))) none
  | .employees =>
    dispatch request (registryAnswer 200 (listJson Employee.toJson) (stored stores.employees.all))
      (some (registryAnswer 201 Employee.toJson (createEmployee stores stamp request)))
  | .employee segment =>
    dispatch request (withKey "rssb_number" segment fun key ↦
      registryAnswer 200 Employee.toJson (lookup "employee" stores.employees key)) none
  | .employers =>
    dispatch request (registryAnswer 200 (listJson Employer.toJson) (stored stores.employers.all))
      (some (registryAnswer 201 Employer.toJson (createEmployer stores stamp request)))
  | .employer segment =>
    dispatch request (withKey "matricule" segment fun key ↦
      registryAnswer 200 Employer.toJson (lookup "employer" stores.employers key)) none
  | .contributions =>
    dispatch request (serveContributions stores request)
      (some (registryAnswer 201 Contribution.toJson (createContribution stores stamp request)))

/-- Which origins the registry service grants what. -/
def registryOrigins (origins : List String) : OriginPolicy := ⟨origins, "GET,POST,OPTIONS"⟩

/-- Serves a request. -/
def serveRegistry (stores : MasterStore σ) (origins : List String) (stamp : Stamp) (uptime : Nat)
    (request : Request) : Serving σ :=
  serveUnder (registryOrigins origins) RegistryResource.methods
    (serveResource stores stamp uptime request) (RegistryResource.ofPath? request.target.path)
    request

end ContributionRegistry.Service
