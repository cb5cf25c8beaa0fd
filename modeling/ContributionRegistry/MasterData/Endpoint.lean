import ContributionRegistry.MasterData.Basic
import ContributionRegistry.Web.Form
import ContributionRegistry.Web.Url

/-!
# Where master data is

The URLs of master data under a base URL. An employee has a URL of its own, in which the RSSB number
is one segment; contributions are asked for by a query with the number.

**Keys in URLs.** A key is appended to the path as a URL does it (`Web.Url.extend`): most characters
stand or are escaped, but tabs and line ends are dropped, and a key of dots is no segment. In the
query every character is escaped or stands, so there all keys are told apart.
-/

namespace ContributionRegistry.Endpoint

open Web (Url)

/-- A text without the slashes at its end. -/
def withoutSlashes (text : String) : String :=
  String.ofList (text.toList.reverse.dropWhile (· = '/')).reverse

/-- Reads a base URL. Slashes at its end do not count. -/
def readBase (text : String) : Except RemoteError Url :=
  let text := withoutSlashes text
  match Url.parse? text.toList with
  | some url => .ok url
  | none => .error (.transport text "invalid base URL")

/-- The URL of an employee. -/
def employee (base : Url) (rssbNumber : String) : Url :=
  base.extend ["api".toList, "v1".toList, "employees".toList, rssbNumber.toList]

/-- The URL of the contributions. -/
def contributions (base : Url) : Url :=
  base.extend ["api".toList, "v1".toList, "contributions".toList]

/-- The name under which the query for contributions has the RSSB number. -/
def numberName : String := "rssbNumber"

/-- The URL of the contributions for an employee. -/
def contributionsOf (base : Url) (rssbNumber : String) : Url :=
  (contributions base).withPair (Web.Form.encodePair numberName.toList rssbNumber.toList)

end ContributionRegistry.Endpoint
