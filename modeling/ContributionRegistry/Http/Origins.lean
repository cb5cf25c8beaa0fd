import ContributionRegistry.Http.Message

/-!
# Pages from other origins

Browsers let a page talk to a service of another origin if the responses of the service say so.
Either all origins are granted, or those of a list; a listed origin is granted by naming it in the
response to it. Questions of browsers in advance are answered without asking the service itself.

An `OriginPolicy` is what the settings say. A `Grant` is what the layer around a service is made of;
there is none for a list with a star, which is no origin (`Grant.ofList`), but a policy with a star
grants everybody and never comes to that (`OriginPolicy.grant?`). Every response is marked with what
is granted to its request (`OriginPolicy.mark`), and with the headers that this depends on.
-/

namespace ContributionRegistry.Http

/-- Whom a layer around a service grants: everybody, or the origins of a list. -/
inductive Grant where
  | all
  | listed (origins : List String)
  deriving DecidableEq, Repr

namespace Grant

/-- Grants the origins of a list. A star is no origin: with a star in the list there is no layer,
and setting up the service is abandoned. -/
def ofList (origins : List String) : Option Grant :=
  if origins.contains "*" then none else some (.listed origins)

/-- What is granted to a request from `origin`: all origins, or the one it comes from if it is
listed. -/
def origin? : Grant → Option String → Option String
  | .all, _ => some "*"
  | .listed origins, origin => origin.filter origins.contains

end Grant

/-- Which origins are granted, and which methods are offered to them. -/
structure OriginPolicy where
  /-- The granted origins; a star stands for all. -/
  origins : List String
  /-- The offered methods, with commas between them. -/
  methods : String

namespace OriginPolicy

/-- Whether a text may be the value of a header. -/
def isHeaderValue (text : String) : Bool :=
  text.toList.all fun c ↦ c = '\t' || (0x20 ≤ c.toNat && c.toNat ≠ 0x7F)

/-- Whom the policy grants. Listed texts that could not stand in a header are passed over. -/
def grant? (p : OriginPolicy) : Option Grant :=
  if p.origins.contains "*" then some .all else Grant.ofList (p.origins.filter isHeaderValue)

/-- What is granted to a request from `origin`. -/
def granted? (p : OriginPolicy) (origin : Option String) : Option String :=
  p.grant?.bind fun grant ↦ grant.origin? origin

/-- What every response says about the headers that it depends on. -/
def vary : String := "origin, access-control-request-method, access-control-request-headers"

/-- A response with what is granted to the request. -/
def mark (p : OriginPolicy) (request : Request) (response : Response) : Response :=
  let response := response.withHeader "vary" vary
  match p.granted? (request.header? "origin") with
  | some origin => response.withHeader "access-control-allow-origin" origin
  | none => response

/-- The response to a question in advance. `allow` names the methods of the resource asked about, if
there is one. -/
def preflight (p : OriginPolicy) (request : Request) (allow : Option String) : Response :=
  let response := p.mark request (Response.bare 200)
    |>.withHeader "access-control-allow-methods" p.methods
    |>.withHeader "access-control-allow-headers" "*"
  match allow with
  | some methods => response.withHeader "allow" methods
  | none => response

end OriginPolicy

end ContributionRegistry.Http
