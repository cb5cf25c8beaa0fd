import ContributionRegistry.MasterData.Basic
import ContributionRegistry.Store.Basic

/-!
# Looking up employees in a replica

The replica holds employees under their RSSB numbers. A lookup is answered from the replica; what is
not there is asked of master data, stored in the replica and answered from then on without asking.

A lookup goes through at most four steps, each one call: *searching* the replica, *asking* master
data, *keeping* the employee, and *rereading* the replica when somebody else has kept one under the
same key meanwhile. Between two steps other lookups may take theirs, so the steps are what is
defined first (`Errand.step`); a lookup that nobody disturbs is the steps in a row (`resolve`).

**Whose failure.** Trouble with master data is a way to come out (`Resolution.syncFailed`) and not a
failure of the lookup, and so is the answer that there is no such employee. Only the replica makes a
lookup fail. An employee with another number than the one asked for is not kept.
-/

namespace ContributionRegistry.Replica

open Calendar (Timestamp)

/-- How a lookup came out. -/
inductive Resolution where
  /-- The replica had the employee. -/
  | found (e : Employee)
  /-- Master data had the employee, and now the replica has. -/
  | synced (e : Employee)
  /-- Master data has no such employee either. -/
  | notFound
  /-- Master data could not be used. -/
  | syncFailed (cause : RemoteError)
  deriving DecidableEq, Repr

/-- The employee that a lookup came out with. -/
def Resolution.employee? : Resolution → Option Employee
  | .found e | .synced e => some e
  | .notFound | .syncFailed _ => none

/-- What a lookup of employees needs: the replica, master data and the time of day. -/
structure Desk (σ : Type) where
  /-- Where employees are kept. -/
  replica : RecordStore σ Employee
  /-- Who is asked for employees that are not kept. -/
  source : MasterData σ
  /-- The time of day in a state. -/
  now : σ → Timestamp

/-- A lookup under way. -/
inductive Errand where
  /-- About to look into the replica. -/
  | searching (key : String)
  /-- About to ask master data. -/
  | asking (key : String)
  /-- About to store an employee. -/
  | keeping (key : String) (candidate : Employee)
  /-- About to look into the replica again, after the failure to store. -/
  | rereading (key : String) (failure : StoreError)
  /-- Come out. -/
  | settled (outcome : Attempt StoreError Resolution)

namespace Errand

/-- After the search. -/
def searched (key : String) : Attempt StoreError (Option Employee) → Errand
  | .ok (some e) => .settled (.ok (.found e))
  | .ok none => .asking key
  | .error e => .settled (.error e)

/-- After master data has been asked. -/
def asked (key : String) (now : Timestamp) : Attempt RemoteError RemoteEmployee → Errand
  | .ok r =>
    if r.rssbNumber = key then .keeping key (r.adopt now)
    else .settled (.ok (.syncFailed (.keyMismatch key r.rssbNumber)))
  | .error (.refused e) => .settled (.ok (if e.isNotFound then .notFound else .syncFailed e))
  | .error .abandoned => .settled (.error .abandoned)

/-- After the attempt to store. -/
def kept (key : String) : Attempt StoreError Employee → Errand
  | .ok e => .settled (.ok (.synced e))
  | .error (.refused e) => if e.isConflict then .rereading key e else .settled (.error (.refused e))
  | .error .abandoned => .settled (.error .abandoned)

/-- After the second search. -/
def reread (failure : StoreError) : Attempt StoreError (Option Employee) → Errand
  | .ok (some e) => .settled (.ok (.synced e))
  | .ok none => .settled (.error (.refused failure))
  | .error e => .settled (.error e)

/-- One call, and what follows from it. -/
def step {σ : Type} (desk : Desk σ) : Errand → σ → Errand × σ
  | .searching key, s =>
    let (outcome, s) := desk.replica.find key s
    (searched key outcome, s)
  | .asking key, s =>
    let (outcome, s) := desk.source.employee key s
    (asked key (desk.now s) outcome, s)
  | .keeping key candidate, s =>
    let (outcome, s) := desk.replica.create candidate s
    (kept key outcome, s)
  | .rereading key failure, s =>
    let (outcome, s) := desk.replica.find key s
    (reread failure outcome, s)
  | .settled outcome, s => (.settled outcome, s)

/-- How an errand comes out that nobody disturbs. No errand takes more steps than it has left. -/
def finish {σ : Type} (desk : Desk σ) : Nat → Errand → σ → Attempt StoreError Resolution × σ
  | _, .settled outcome, s => (outcome, s)
  | 0, _, s => (.error .abandoned, s)
  | steps + 1, errand, s =>
    let (errand, s) := errand.step desk s
    finish desk steps errand s

end Errand

/-- Looks up an employee. -/
def resolve {σ : Type} (desk : Desk σ) (key : String) : Action σ StoreError Resolution :=
  Errand.finish desk 4 (.searching key)

end ContributionRegistry.Replica
