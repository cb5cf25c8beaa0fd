import ContributionRegistry.Records.Basic

/-!
# The order of listings

Listings are newest first. Contributions are listed by period first, the latest one on top, and
within a period newest first.

Each order says which of two records *may* stand before the other. Records that may stand either way
keep the order they had, since sorting is stable, and that is the order of insertion in memory and
any order at all in a database. Hence two stores may list the same records differently, though only
where nothing but chance decides.
-/

namespace ContributionRegistry

open Calendar (Timestamp)

/-- Whether a record made at `s` may stand before one made at `t`. -/
def newerFirst (s t : Timestamp) : Bool := !s.precedes t

/-- Employees, newest first. -/
def Employee.listing (es : List Employee) : List Employee :=
  es.mergeSort fun a b ↦ newerFirst a.createdAt b.createdAt

/-- Employers, newest first. -/
def Employer.listing (es : List Employer) : List Employer :=
  es.mergeSort fun a b ↦ newerFirst a.createdAt b.createdAt

/-- Whether a contribution may stand before another. -/
def Contribution.listedBefore (a b : Contribution) : Bool :=
  b.period.precedes a.period ||
    (!a.period.precedes b.period && newerFirst a.createdAt b.createdAt)

/-- Contributions, latest period first and newest first within a period. -/
def Contribution.listing (cs : List Contribution) : List Contribution :=
  cs.mergeSort Contribution.listedBefore

end ContributionRegistry
