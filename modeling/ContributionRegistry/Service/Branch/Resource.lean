import ContributionRegistry.Service.Basic

/-!
# Resources of the branch service

The paths that the branch service knows, and the methods that it takes there. A branch is only read,
so there is one set of methods for all resources.

Segments are compared as they are written, so an escaped letter in the name of a resource makes
another path; only the segment of a key is read further, and not here. A key is never empty: a path
that ends with a slash where a key should be leads nowhere.
-/

namespace ContributionRegistry.Service

/-- What the branch service has. Keys are as they stand in the path. -/
inductive BranchResource where
  /-- Whether the service is up. -/
  | health
  /-- The employees that the branch has. -/
  | employees
  /-- One employee, looked up under a key. -/
  | employee (segment : List Char)
  /-- The contributions for an employee. -/
  | contributions (segment : List Char)
  /-- Figures about the cache. -/
  | stats
  deriving DecidableEq, Repr

namespace BranchResource

/-- The resource at a path. -/
def ofPath? (path : List Char) : Option BranchResource :=
  match (segments path).map String.ofList with
  | ["", "health"] => some .health
  | ["", "api", "v1", "employees"] => some .employees
  | ["", "api", "v1", "employees", segment] =>
    if segment.isEmpty then none else some (.employee segment.toList)
  | ["", "api", "v1", "contributions", "employee", segment] =>
    if segment.isEmpty then none else some (.contributions segment.toList)
  | ["", "api", "v1", "contributions", "cache", "stats"] => some .stats
  | _ => none

/-- The methods that a resource takes: a branch is only read. -/
def methods : BranchResource → String := fun _ ↦ "GET,HEAD"

end BranchResource

end ContributionRegistry.Service
