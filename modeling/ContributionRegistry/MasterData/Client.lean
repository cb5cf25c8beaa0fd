import ContributionRegistry.MasterData.Endpoint
import ContributionRegistry.MasterData.Network
import ContributionRegistry.Records.Wire

/-!
# Master data over a network

Asks a service for master data and decodes its replies. Whatever goes wrong is told apart by how far
the question came: no reply, no reply in time, a reply that is no success, a reply that cannot be
read. Failures name the URL that was asked first, without the query for contributions.

A question follows replies that send it elsewhere, and the status of the last one counts. The body
of a success is decoded as JSON; that includes torn amounts, which make the client be abandoned, and
its caller with it.
-/

namespace ContributionRegistry

open Web (Url)

namespace RemoteError

/-- The failure that a fault on the way to or from `url` makes. -/
def ofFault (url : String) : NetworkFault → RemoteError
  | .timedOut => .timeout url
  | .unreachable reason => .transport url reason
  | .cutShort reason => .decode url reason

/-- The failure to decode what `url` served. -/
def ofDecodeFault (url : String) : Json.DecodeFault → RemoteError
  | .malformed => .decode url "malformed JSON"
  | .unfit _ complaint => .decode url complaint.message

end RemoteError

namespace Client

/-- Reads a reply. The name stands for the URL in failures. -/
def read {α : Type} (decode : Json → Json.Decoded α) (name : String) (reply : Reply) :
    Attempt RemoteError α :=
  if reply.isSuccess then
    match reply.body with
    | .ok bytes =>
      (Json.decode decode (Text.Utf8.decode bytes)).restate (RemoteError.ofDecodeFault name)
    | .error fault => .refuse (.ofFault name fault)
  else .refuse (.status name reply.status)

/-- Asks for what a URL has. -/
def fetch {σ α : Type} (network : Network σ) (decode : Json → Json.Decoded α) (name : String)
    (url : Url) : Action σ RemoteError α := fun s ↦
  match network.follow Network.patience url s with
  | (.ok reply, s) => (read decode name reply, s)
  | (.error fault, s) => (.refuse (.ofFault name fault), s)

/-- Master data at a base URL. -/
def masterData {σ : Type} (network : Network σ) (base : Url) : MasterData σ where
  employee key :=
    let url := Endpoint.employee base key
    fetch network RemoteEmployee.ofJson url.text url
  contributions key :=
    fetch network Contribution.listOfJson (Endpoint.contributions base).text
      (Endpoint.contributionsOf base key)

end Client

end ContributionRegistry
