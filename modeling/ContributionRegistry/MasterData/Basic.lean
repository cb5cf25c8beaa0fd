import ContributionRegistry.Action
import ContributionRegistry.Records.Basic

/-!
# Master data

The registry that another service answers for: what it can be asked for, and what can go wrong with
the asking.

Master data is a record of two actions (`MasterData`), one for an employee and one for the
contributions of an employee. There is one over a network and one whose answers are laid down
beforehand; lookups are defined for any of them. The failures (`RemoteError`) have the URL that was
asked, and only one of them is an answer to the question: a status of 404 says that there is no such
employee.
-/

namespace ContributionRegistry

/-- Why master data could not be had. -/
inductive RemoteError where
  /-- There was no answer. -/
  | transport (url reason : String)
  /-- There was no answer in time. -/
  | timeout (url : String)
  /-- The answer is no success. -/
  | status (url : String) (code : Nat)
  /-- The answer cannot be read. -/
  | decode (url reason : String)
  /-- The answer is about somebody else. -/
  | keyMismatch (requested returned : String)
  deriving DecidableEq, Repr

namespace RemoteError

/-- The wording of each failure. -/
def message : RemoteError → String
  | .transport url reason => s!"Request to {url} failed: {reason}"
  | .timeout url => s!"Request to {url} timed out"
  | .status url code => s!"{url} answered HTTP {code}"
  | .decode url reason => s!"Malformed payload from {url}: {reason}"
  | .keyMismatch requested returned =>
    s!"Requested RSSB number {requested} but master data returned {returned}"

/-- Whether the answer was that there is no such record. -/
def isNotFound : RemoteError → Bool
  | .status _ 404 => true
  | _ => false

/-- The broad kind of a failure. An answer about somebody else counts as unreadable. -/
def kind : RemoteError → String
  | .transport .. => "transport"
  | .timeout _ => "timeout"
  | .status .. => "status"
  | .decode .. | .keyMismatch .. => "decode"

/-! ### Small facts -/

/-- There is one answer only that denies an employee. -/
theorem isNotFound_iff (e : RemoteError) : e.isNotFound = true ↔ ∃ url, e = .status url 404 := by
  constructor
  · intro h
    unfold isNotFound at h
    split at h
    · exact ⟨_, rfl⟩
    · cases h
  · rintro ⟨url, rfl⟩
    rfl

end RemoteError

/-- What master data can be asked for. -/
structure MasterData (σ : Type) where
  /-- The employee with an RSSB number. -/
  employee : String → Action σ RemoteError RemoteEmployee
  /-- The contributions for an employee, in the order served. -/
  contributions : String → Action σ RemoteError (List Contribution)

end ContributionRegistry
