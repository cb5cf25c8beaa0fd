import ContributionRegistry.MasterData.Basic

/-!
# Master data as told

Master data whose answers are laid down beforehand. For an employee that nothing is laid down for,
the answer is that there is none, and for contributions an empty list. During an outage every
question fails in the same way. All questions are counted.

The counts are what claims about sparing master data are about: a lookup that the replica or the
cache answers leaves them as they are.
-/

namespace ContributionRegistry

/-- What master data answers, and how often it has been asked. -/
structure Supply where
  /-- What is told of employees, the latest word on a key first. -/
  employees : List (String × RemoteEmployee) := []
  /-- What is told of contributions, the latest word on a key first. -/
  contributions : List (String × List Contribution) := []
  /-- How every question fails at present, if it does. -/
  outage : Option RemoteError := none
  /-- How often an employee was asked for. -/
  employeeCalls : Nat := 0
  /-- How often contributions were asked for. -/
  contributionCalls : Nat := 0

namespace Supply

/-- Lays down an employee. -/
def serveEmployee (key : String) (e : RemoteEmployee) (s : Supply) : Supply :=
  { s with employees := (key, e) :: s.employees }

/-- Lays down a contribution list. -/
def serveContributions (key : String) (cs : List Contribution) (s : Supply) : Supply :=
  { s with contributions := (key, cs) :: s.contributions }

/-- The answer that there is no such employee. -/
def unknown (key : String) : RemoteError := .status s!"stub://employees/{key}" 404

/-- What is answered about an employee. -/
def employeeAnswer (key : String) (s : Supply) : Except RemoteError RemoteEmployee :=
  match s.outage, s.employees.lookup key with
  | some e, _ => .error e
  | none, some r => .ok r
  | none, none => .error (unknown key)

/-- What is answered about contributions. -/
def contributionsAnswer (key : String) (s : Supply) : Except RemoteError (List Contribution) :=
  match s.outage with
  | some e => .error e
  | none => .ok ((s.contributions.lookup key).getD [])

/-- Master data on this state. -/
def masterData : MasterData Supply where
  employee key s :=
    (Attempt.ofExcept (s.employeeAnswer key), { s with employeeCalls := s.employeeCalls + 1 })
  contributions key s :=
    (Attempt.ofExcept (s.contributionsAnswer key),
      { s with contributionCalls := s.contributionCalls + 1 })

end Supply

end ContributionRegistry
