import ContributionRegistry.Deployment.Branch
import ContributionRegistry.Deployment.Registry
import ContributionRegistry.MasterData.Client
import ContributionRegistry.Service.Branch.Serve
import ContributionRegistry.Service.Registry.Serve

/-!
# A registry and a branch of it

A branch whose master data is what a registry serves. The branch asks the registry service over a
network that has no other inhabitants and can be cut.

A question is a URL. It becomes a request (`Line.requestFor?`), the registry service answers as it
answers anybody (`Line.ask`), and the response goes back as bytes (`Line.replyOf`). So between the
records of the registry and those of the replica stand all the writing and reading that there is
between the two services: URLs and their escapes, routes, headers, JSON.

A request that the service abandons ends the connection, and one that cannot be put at all is a
fault of the network; the branch tells neither from a network that is cut.
-/

namespace ContributionRegistry.Deployment

open Calendar (Date Timestamp)
open Http (Request Response Target)
open Web (Url)

/-- A registry at the other end of a network. -/
structure Line where
  /-- The registry, with its stores. -/
  registry : Registry := {}
  /-- Whether the network is cut. -/
  outage : Bool := false

namespace Line

/-- The request that asks for what a URL has. The URL as a whole must not be larger than a target
may be, though only its path and its query are sent. -/
def requestFor? (url : Url) : Option Request :=
  if Target.largestSize < url.size then none
  else (Target.parse? (String.ofList url.target)).map fun target ↦ { method := "GET", target }

/-- A response as it comes over the network. -/
def replyOf (r : Response) : Reply where
  status := r.status
  location := (r.headers.lookup "location").map fun text ↦ Text.Utf8.encode text.toList
  body := .ok (Text.Utf8.encode r.body.toList)

/-- The stamp that goes with questions. They make no records, so it is of no account. -/
def noStamp : Stamp := ⟨"", Timestamp.startOf Date.epoch⟩

/-- What the registry service answers. A request that it abandons ends the connection. -/
def ask (url : Url) (r : Registry) : Except NetworkFault Reply × Registry :=
  match requestFor? url with
  | none => (.error (.unreachable "no request"), r)
  | some request =>
    match Service.serveRegistry Registry.stores ["*"] noStamp 0 request r with
    | (some response, r) => (.ok (replyOf response), r)
    | (none, r) => (.error (.unreachable "connection closed"), r)

/-- The network. -/
def network : Network Line := fun url l ↦
  if l.outage then (.error (.unreachable "connection refused"), l)
  else
    let (outcome, registry) := ask url l.registry
    (outcome, { l with registry })

end Line

/-- The state of a registry and of a branch of it. -/
abbrev Pair : Type := Branch Line

namespace Pair

/-- Master data as the branch asks for it; `base` is the base URL of the registry. -/
def masterData (base : Url) : MasterData Line := Client.masterData Line.network base

/-- Serves a request to the branch. -/
def serveBranch (base : Url) (ttl : Nat) (request : Request) : Service.Serving Pair :=
  Service.serveBranch (Branch.desk (masterData base)) (Branch.lists (masterData base) ttl) ["*"] 0
    request

/-- Serves a request to the registry. -/
def serveRegistry (stamp : Stamp) (request : Request) : Service.Serving Pair := fun p ↦
  let (response, registry) :=
    Service.serveRegistry Registry.stores ["*"] stamp 0 request p.supply.registry
  (response, { p with supply := { p.supply with registry } })

end Pair

end ContributionRegistry.Deployment
