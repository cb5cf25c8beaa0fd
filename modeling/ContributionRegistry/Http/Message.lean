import ContributionRegistry.Http.Target
import ContributionRegistry.Json.Writer
import ContributionRegistry.Text.Utf8

/-!
# Requests and responses

The messages of HTTP as far as the services look at them. The names of headers are in lower case.

A request has its body as bytes, because whether they are text is found out when they are read. A
response has its body as a text: the services write nothing else. Headers are lists in the order in
which they were added; of several with one name the first one counts.
-/

namespace ContributionRegistry.Http

/-- A request. -/
structure Request where
  /-- The method, such as `GET`. -/
  method : String
  /-- What is asked for. -/
  target : Target
  /-- The headers, with their names in lower case. -/
  headers : List (String × String) := []
  /-- The body as it came. -/
  body : List UInt8 := []
  deriving DecidableEq, Repr

/-- The first header of a name. -/
def Request.header? (r : Request) (name : String) : Option String := r.headers.lookup name

/-- A response. -/
structure Response where
  /-- The status, such as 200 for a success. -/
  status : Nat
  /-- The headers in the order in which they were added. -/
  headers : List (String × String) := []
  /-- The body as text. -/
  body : String := ""
  deriving DecidableEq, Repr

namespace Response

/-- The response without a body. -/
def bare (status : Nat) : Response := { status }

/-- A response with a text. -/
def ofText (status : Nat) (text : String) : Response :=
  { status, headers := [("content-type", "text/plain; charset=utf-8")], body := text }

/-- A response with a JSON value. -/
def ofJson (status : Nat) (value : Json) : Response :=
  { status, headers := [("content-type", "application/json")], body := value.render }

/-- The same response with one more header. -/
def withHeader (r : Response) (name value : String) : Response :=
  { r with headers := r.headers ++ [(name, value)] }

/-- The same response to somebody who did not ask for the body. -/
def withoutBody (r : Response) : Response := { r with body := "" }

/-- The response to a method that a resource does not take. -/
def notAllowed (methods : String) : Response := (bare 405).withHeader "allow" methods

end Response

/-- Whether a text may be a method: one or more letters, digits and marks. -/
def isMethod (text : String) : Bool :=
  !text.isEmpty && text.toList.all fun c ↦ c.isAlphanum || "!#$%&'*+-.^_`|~".toList.contains c

end ContributionRegistry.Http
