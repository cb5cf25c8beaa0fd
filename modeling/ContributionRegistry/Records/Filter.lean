import ContributionRegistry.Records.Basic

/-!
# Filters on contributions

A listing of contributions is of all of them, or of those of one employee, one period or one
employer. A request may name several of the three; one decides, in the order employee, period,
employer. An empty text names nothing.

What does not decide is not read (`ContributionFilter.ofParams`): a period that is none is refused
only where the period decides.
-/

namespace ContributionRegistry

/-- Which contributions a listing is to have. -/
inductive ContributionFilter where
  | all
  | byRssbNumber (rssbNumber : String)
  | byPeriod (period : Period)
  | byMatricule (matricule : String)
  deriving DecidableEq, Repr

instance : Inhabited ContributionFilter := ⟨.all⟩

namespace ContributionFilter

/-- Whether a contribution is to be listed. -/
def matches? : ContributionFilter → Contribution → Bool
  | .all, _ => true
  | .byRssbNumber key, c => c.rssbNumber == key
  | .byPeriod period, c => c.period == period
  | .byMatricule key, c => c.matricule == key

/-- A text that names something. -/
def named : Option String → Option String
  | some "" => none
  | text => text

/-- The filter of a request. A period is read only if it decides. -/
def ofParams (rssbNumber period matricule : Option String) :
    Except InvalidPeriod ContributionFilter :=
  match named rssbNumber, named period, named matricule with
  | some key, _, _ => .ok (.byRssbNumber key)
  | none, some raw, _ => (Period.parse raw).map .byPeriod
  | none, none, some key => .ok (.byMatricule key)
  | none, none, none => .ok .all

end ContributionFilter

end ContributionRegistry
