import ContributionRegistry.Service.Basic

/-!
# Resources of the registry service

The paths that the registry service knows, and the methods that it takes there. The three
collections can be handed something in, everything else is only read.

Segments are compared as they are written, but for that of a key, which is read further elsewhere. A
key is never empty. A path that is known answers every method, if only by saying which ones it
takes; a path that is not known is not found, whatever the method.
-/

namespace ContributionRegistry.Service

/-- What the registry service has. Keys are as they stand in the path. -/
inductive RegistryResource where
  /-- Whether the service is up. -/
  | health
  /-- All employees. -/
  | employees
  /-- One employee. -/
  | employee (segment : List Char)
  /-- All employers. -/
  | employers
  /-- One employer. -/
  | employer (segment : List Char)
  /-- Contributions, all or selected ones. -/
  | contributions
  deriving DecidableEq, Repr

namespace RegistryResource

/-- The resource at a path. -/
def ofPath? (path : List Char) : Option RegistryResource :=
  match (segments path).map String.ofList with
  | ["", "health"] => some .health
  | ["", "api", "v1", "employees"] => some .employees
  | ["", "api", "v1", "employers"] => some .employers
  | ["", "api", "v1", "contributions"] => some .contributions
  | ["", "api", "v1", "employees", segment] =>
    if segment.isEmpty then none else some (.employee segment.toList)
  | ["", "api", "v1", "employers", segment] =>
    if segment.isEmpty then none else some (.employer segment.toList)
  | _ => none

/-- The methods that a resource takes. -/
def methods : RegistryResource → String
  | .employees | .employers | .contributions => "GET,HEAD,POST"
  | .health | .employee _ | .employer _ => "GET,HEAD"

end RegistryResource

end ContributionRegistry.Service
