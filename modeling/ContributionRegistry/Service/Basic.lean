import ContributionRegistry.Action
import ContributionRegistry.Http.Message
import ContributionRegistry.Http.Origins
import ContributionRegistry.Web.Percent

/-!
# What the services have in common

The shape of error bodies, the health report, keys in paths, and the handling of methods: whatever
answers `GET` answers `HEAD` too, without the body, and `OPTIONS` is a question in advance about the
resource at a path, or about none.

Serving a request is a function of the state (`Serving`): a response, unless the request is
abandoned, and the state left behind. An action becomes one by saying what is written of a value and
how a fault is responded to (`answer`).

A key comes as a segment of a path and is what the escapes in it stand for (`key?`). A segment whose
bytes are no text has no key; that is responded to before anything else is done (`withKey`).
-/

namespace ContributionRegistry.Service

open Http (OriginPolicy Request Response)
open Json (member ofText)

/-- The version that the services report. -/
def version : String := "0.1.0"

/-- What serving a request does: a response, unless the request is abandoned, and the state left
behind. -/
abbrev Serving (σ : Type) : Type := σ → Option Response × σ

/-- A response that needs no state. -/
def serve {σ : Type} (response : Response) : Serving σ := fun s ↦ (some response, s)

/-- The response to a fault. -/
def faultResponse (status : Nat) (code message : String) : Response :=
  .ofJson status (.object [member "error" (.object
    [member "code" (ofText code), member "message" (ofText message)])])

/-- The report that a service is up, with the seconds since it was started. -/
def healthReport (service : String) (uptime : Nat) : Json :=
  .object [member "status" (ofText "ok"), member "service" (ofText service),
    member "version" (ofText version), member "uptime" (.ofNat uptime)]

/-! ### Outcomes of actions -/

/-- The response to an attempt. There is none to an abandoned one. -/
def respond {ε α : Type} (fault : ε → Response) (status : Nat) (toJson : α → Json) :
    Attempt ε α → Option Response
  | .ok a => some (.ofJson status (toJson a))
  | .error (.refused f) => some (fault f)
  | .error .abandoned => none

/-- Serves what an action gives. -/
def answer {σ ε α : Type} (fault : ε → Response) (status : Nat) (toJson : α → Json)
    (act : Action σ ε α) : Serving σ := fun s ↦
  let (outcome, s) := act s
  (respond fault status toJson outcome, s)

/-- Records as a JSON array. -/
def listJson {ρ : Type} (toJson : ρ → Json) (records : List ρ) : Json := .array (records.map toJson)

/-! ### Paths -/

/-- The segments of a path; the part before the first slash comes first. -/
def segments : List Char → List (List Char)
  | [] => [[]]
  | c :: rest =>
    if c = '/' then [] :: segments rest
    else match segments rest with
      | [] => [[c]]
      | part :: parts => (c :: part) :: parts

/-- The key that a segment of a path stands for, if it is a text. -/
def key? (segment : List Char) : Option String :=
  (Text.Utf8.decode? (Web.unescape (Text.Utf8.encode segment))).map String.ofList

/-- The response where a segment stands for no text; `name` is what the segment is called. -/
def unreadableKey (name : String) : Response :=
  .ofText 400 s!"Invalid URL: Invalid UTF-8 in `{name}`"

/-- Serves a request for what `act` does with the key in the path. -/
def withKey {σ : Type} (name : String) (segment : List Char) (act : String → Serving σ) :
    Serving σ :=
  match key? segment with
  | some key => act key
  | none => serve (unreadableKey name)

/-! ### Methods -/

/-- Serves a request to a resource that can be read and, if there is a `post`, written to. -/
def dispatch {σ : Type} (request : Request) (get : Serving σ) (post : Option (Serving σ)) :
    Serving σ :=
  match request.method, post with
  | "GET", _ => get
  | "HEAD", _ => fun s ↦
    let (response, s) := get s
    (response.map Response.withoutBody, s)
  | "POST", some post => post
  | _, some _ => serve (.notAllowed "GET,HEAD,POST")
  | _, none => serve (.notAllowed "GET,HEAD")

/-- Serves a request to the resource at its path, if there is one, under a policy. -/
def serveUnder {σ ρ : Type} (policy : OriginPolicy) (methods : ρ → String)
    (act : ρ → Serving σ) (resource : Option ρ) (request : Request) : Serving σ := fun s ↦
  if request.method = "OPTIONS" then (some (policy.preflight request (resource.map methods)), s)
  else
    let (response, s) := match resource with
      | some resource => act resource s
      | none => (some (Response.bare 404), s)
    (response.map (policy.mark request), s)

end ContributionRegistry.Service
