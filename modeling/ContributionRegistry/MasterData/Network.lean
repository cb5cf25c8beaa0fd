import ContributionRegistry.Text.Utf8
import ContributionRegistry.Web.Url

/-!
# Asking over a network

A network takes a URL to whoever answers for it and brings back a reply, or does not (`Network`).
What stands at the other end is not said here: it may be nobody (`Network.silent`), or a service
with a state of its own.

Questions are put to `http` and `https` only. Replies that send the asker elsewhere are followed up
to a number of times (`Network.follow`), and the place is read as a reference from where the reply
came. A reply with such a status but without a place that can be read is taken as it is.
-/

namespace ContributionRegistry

open Web (Url)

/-- What goes wrong on the way. -/
inductive NetworkFault where
  | timedOut
  /-- There is nobody, or the connection broke before there was a reply. -/
  | unreachable (reason : String)
  /-- The reply ended before its body did. -/
  | cutShort (reason : String)
  deriving DecidableEq, Repr

/-- What comes back. The body comes after the rest and may fail by itself. -/
structure Reply where
  /-- The status of the reply. -/
  status : Nat
  /-- Where the asker is sent, if there is such a header. -/
  location : Option (List UInt8) := none
  /-- The bytes of the body, or what went wrong with it. -/
  body : Except NetworkFault (List UInt8)

namespace Reply

/-- Whether the question was answered. -/
def isSuccess (r : Reply) : Bool := 200 ≤ r.status && r.status < 300

/-- Whether a status sends the asker elsewhere. -/
def isRedirect (status : Nat) : Bool := [301, 302, 303, 307, 308].contains status

/-- Where a reply from `url` sends the asker, if it does and the place can be read. -/
def elsewhere? (r : Reply) (url : Url) : Option Url :=
  if isRedirect r.status then
    (r.location.bind Text.Utf8.decode?).bind (Url.join? url)
  else none

end Reply

/-- A network: a question and what becomes of it. -/
abbrev Network (σ : Type) : Type := Url → σ → Except NetworkFault Reply × σ

namespace Network

variable {σ : Type}

/-- A network where nobody can be reached. -/
def silent : Network σ := fun _ s ↦ (.error (.unreachable "connection refused"), s)

/-- Whether a question can be put to a URL at all. -/
def speaks (url : Url) : Bool := ["http", "https"].contains (String.ofList url.scheme)

/-- Puts a question to a URL, if it can be. -/
def put (network : Network σ) (url : Url) : σ → Except NetworkFault Reply × σ := fun s ↦
  if speaks url then network url s else (.error (.unreachable "scheme is not allowed"), s)

/-- How often an asker lets itself be sent elsewhere. -/
def patience : Nat := 10

/-- Puts a question, and again wherever the reply sends the asker, at most `hops` times. -/
def follow (network : Network σ) (hops : Nat) (url : Url) (s : σ) :
    Except NetworkFault Reply × σ :=
  match network.put url s with
  | (.error fault, s) => (.error fault, s)
  | (.ok reply, s) =>
    match reply.elsewhere? url, hops with
    | none, _ => (.ok reply, s)
    | some _, 0 => (.error (.unreachable "too many redirects"), s)
    | some next, hops + 1 => follow network hops next s

end Network

end ContributionRegistry
