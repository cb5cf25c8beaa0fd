import ContributionRegistry.Web.Host

/-!
# URLs

URLs with a hierarchy, as the URL Standard reads and writes them: scheme, authority, a path of
segments, query and fragment. In reading, blanks around the text and all tabs and line ends are left
out; dot segments of the path are resolved; what must be escaped is escaped and escapes are kept.
URLs without a hierarchy, such as mail addresses, are not represented: nothing can be appended to
them.

**Reading.** `Url.parse?` reads a whole URL and `Url.join?` a reference that leaves out what it has
in common with another URL. Schemes of the web are special: they always have a host and a path, and
backslashes count as slashes in them.

**Writing.** `Url.text` is the written form, with everything in it; `Url.target` is the part that
goes into a request. `Url.size` counts the bytes of the whole, since a URL that is too long as a
whole is not asked for.

**Appending.** `Url.appendSegment` adds a text to a path as one segment. Slashes and percent signs
in it are escaped, so they stay in the segment; but tabs and line ends are left out, and a text that
reads as a dot segment is taken for one.
-/

namespace ContributionRegistry.Web

/-- Who is to answer: credentials, a host, and a port if it is not the usual one of the scheme. -/
structure Authority where
  /-- The name in the credentials, empty if there is none. -/
  user : List Char := []
  /-- The password in the credentials, if there is one. -/
  password : Option (List Char) := none
  /-- The host in its written form. -/
  host : List Char
  /-- The port, unless it is the usual one of the scheme. -/
  port : Option Nat := none
  deriving DecidableEq, Repr

/-- A URL. Without segments the path is empty; the path `/` has one empty segment. -/
structure Url where
  /-- The scheme in lower case. -/
  scheme : List Char
  /-- Who is to answer, if the URL says so. -/
  authority : Option Authority
  /-- The segments of the path, with their escapes. -/
  path : List (List Char)
  /-- What is behind the question mark, if there is one. -/
  query : Option (List Char) := none
  /-- What is behind the number sign, if there is one. -/
  fragment : Option (List Char) := none
  deriving DecidableEq, Repr

namespace Url

/-! ### Schemes -/

/-- The usual ports of the schemes whose URLs always have a host and a path. -/
def usualPort? (scheme : List Char) : Option Nat :=
  match String.ofList scheme with
  | "http" | "ws" => some 80
  | "https" | "wss" => some 443
  | "ftp" => some 21
  | _ => none

/-- Whether a scheme is the one for files. -/
def isFileScheme (scheme : List Char) : Bool := String.ofList scheme == "file"

/-- Whether URLs of a scheme always have a path, and backslashes count as slashes in them. -/
def isSpecial (scheme : List Char) : Bool := (usualPort? scheme).isSome || isFileScheme scheme

/-! ### What is escaped where -/

/-- Characters that print in ASCII. -/
def isPlain (c : Char) : Bool := 0x20 ≤ c.toNat && c.toNat < 0x7F

/-- Characters that stand in a fragment. -/
def fragmentKeeps (c : Char) : Bool := isPlain c && !" \"<>`".toList.contains c

/-- Characters that stand in a path. -/
def pathKeeps (c : Char) : Bool := fragmentKeeps c && !"#?\x7b\x7d".toList.contains c

/-- Characters that stand in credentials. -/
def credentialsKeep (c : Char) : Bool := pathKeeps c && !"/:;=@[\\]^|".toList.contains c

/-- Characters that stand in a segment appended to a path. -/
def segmentKeeps (special : Bool) (c : Char) : Bool :=
  pathKeeps c && c != '/' && c != '%' && !(special && c == '\\')

/-- Characters that stand in a query. -/
def queryKeeps (special : Bool) (c : Char) : Bool :=
  isPlain c && !" \"#<>".toList.contains c && !(special && c == '\'')

/-! ### Paths -/

/-- Whether a segment means the segment above. -/
def isUp (segment : List Char) : Bool :=
  ["..", ".%2e", "%2e.", "%2e%2e"].contains (String.ofList (segment.map Char.toLower))

/-- Whether a segment means the place where it stands. -/
def isHere (segment : List Char) : Bool :=
  [".", "%2e"].contains (String.ofList (segment.map Char.toLower))

/-- Whether a segment begins as the name of a drive: a letter, and then a colon or a bar that is not
followed by anything but a backslash. -/
def startsWithDrive : List Char → Bool
  | c :: mark :: rest => c.isAlpha && (mark == ':' || mark == '|') && rest.head?.all (· == '\\')
  | _ => false

/-- Whether a segment is the name of a drive. -/
def isDrive (segment : List Char) : Bool := segment.length == 2 && startsWithDrive segment

/-- The path above a path. Drives are not left. -/
def climb (path : List (List Char)) : List (List Char) :=
  if path.getLast?.any startsWithDrive then path else path.dropLast

/-- A path with more segments, dot segments resolved. A dot segment at the end leaves an empty one.
-/
def walk (path : List (List Char)) : List (List Char) → List (List Char)
  | [] => path
  | segment :: rest =>
    let closing := if rest.isEmpty then [[]] else []
    if isUp segment then walk (climb path ++ closing) rest
    else if isHere segment then walk (path ++ closing) rest
    else walk (path ++ [segment]) rest

/-- Whether a character divides segments. -/
def isSlash (special : Bool) (c : Char) : Bool := c = '/' || (special && c = '\\')

/-- A text as segments after `path`. -/
def walkText (special : Bool) (path : List (List Char)) (text : List Char) : List (List Char) :=
  walk path ((Text.pieces (isSlash special) text).map (escape pathKeeps))

/-- The text without one slash at its start. -/
def dropSlash (special : Bool) : List Char → List Char
  | c :: rest => if isSlash special c then rest else c :: rest
  | [] => []

/-- The path of a text that follows an authority. -/
def pathOf (special : Bool) (text : List Char) : List (List Char) :=
  if text.isEmpty ∧ ¬ special then [] else walkText special [] (dropSlash special text)

/-! ### Reading -/

/-- Whether a character ends the path. -/
def endsPath (c : Char) : Bool := c = '?' || c = '#'

/-- Query and fragment of what follows the path. -/
def tail (special : Bool) : List Char → Option (List Char) × Option (List Char)
  | '?' :: rest =>
    let fragment := match rest.dropWhile (· ≠ '#') with
      | _ :: f => some (escape fragmentKeeps f)
      | [] => none
    (some (escape (queryKeeps special) (rest.takeWhile (· ≠ '#'))), fragment)
  | '#' :: rest => (none, some (escape fragmentKeeps rest))
  | _ => (none, none)

/-- The URL with this scheme and authority and with path, query and fragment of a text. -/
def withRest (scheme : List Char) (authority : Option Authority) (text : List Char) : Url :=
  let special := isSpecial scheme
  let (query, fragment) := tail special (text.dropWhile fun c ↦ !endsPath c)
  let path := pathOf special (text.takeWhile fun c ↦ !endsPath c)
  { scheme, authority, path, query, fragment }

/-- The URL of a file, with path, query and fragment of a text. Empty segments at the start of the
path do not count. A path that starts with a drive is one of this host, whatever host is named. -/
def ofFile (scheme host text : List Char) : Url :=
  let u := withRest scheme (some { host }) text
  match u.path with
  | [] => { u with path := [[]] }
  | first :: rest =>
    if isDrive first then
      { u with authority := some { host := [] }, path := (first.take 1 ++ [':']) :: rest }
    else
      match u.path.dropWhile List.isEmpty with
      | [] => { u with path := [[]] }
      | path => { u with path }

/-- Splits a text at the last occurrence of `@`. -/
def splitAtSign (text : List Char) : Option (List Char × List Char) :=
  match text.reverse.dropWhile (· ≠ '@') with
  | [] => none
  | _ :: before => some (before.reverse, (text.reverse.takeWhile (· ≠ '@')).reverse)

/-- User and password. -/
def credentials (text : List Char) : List Char × Option (List Char) :=
  (escape credentialsKeep (text.takeWhile (· ≠ ':')),
    match text.dropWhile (· ≠ ':') with
    | _ :: c :: rest => some (escape credentialsKeep (c :: rest))
    | _ => none)

/-- Splits a host from what follows it: a colon outside of brackets. -/
def spanHost (inside : Bool) : List Char → List Char × List Char
  | [] => ([], [])
  | c :: rest =>
    if c = ':' ∧ ¬ inside then ([], c :: rest)
    else
      let inside := if c = '[' then true else if c = ']' then false else inside
      let (host, after) := spanHost inside rest
      (c :: host, after)

/-- The port after a host, and what is not part of it. The usual port of the scheme counts as none.
In a URL whose backslashes are no slashes, a backslash may follow, which belongs to the path. -/
def port? (scheme : List Char) : List Char → Option (Option Nat × List Char)
  | [] => some (none, [])
  | _ :: text =>
    let digits := text.takeWhile Char.isDigit
    let rest := text.dropWhile Char.isDigit
    let number := Text.ofRadix 10 digits
    if number ≤ 65535 ∧ rest.head?.all (· == '\\') then
      some (if digits.isEmpty ∨ usualPort? scheme = some number then none else some number, rest)
    else none

/-- Reads an authority; `followed` says whether more of the URL comes after it. Gives what belongs
to the path already, too. Only URLs of schemes that know no names of hosts may lack a host, and only
if they have neither credentials nor a port; an at sign alone is one too many if more comes. -/
def authority? (scheme : List Char) (followed : Bool) (text : List Char) :
    Option (Authority × List Char) := do
  let (login, place) := (splitAtSign text).getD ([], text)
  let (user, password) := credentials login
  let (hostText, portText) := spanHost false place
  let host ← if isSpecial scheme then Host.named? hostText else Host.free? hostText
  let (port, rest) ← port? scheme portText
  let hasLogin := !user.isEmpty || password.isSome || (followed && text == ['@'])
  if host.isEmpty && (hasLogin || !portText.isEmpty) then none
  else return ({ user, password, host, port }, rest)

/-- Whether a character ends the authority. -/
def endsAuthority (special : Bool) (c : Char) : Bool := endsPath c || isSlash special c

/-- Reads what follows the two slashes. -/
def afterSlashes? (scheme text : List Char) : Option Url := do
  let ends := endsAuthority (isSpecial scheme)
  let rest := text.dropWhile fun c ↦ !ends c
  let (authority, start) ← authority? scheme (!rest.isEmpty) (text.takeWhile fun c ↦ !ends c)
  return withRest scheme (some authority) (start ++ rest)

/-- Reads what follows the two slashes of a file URL. The host may be left out, also if the path
starts with a drive; `localhost` is the same as none. -/
def afterFileSlashes? (scheme text : List Char) : Option Url :=
  let ends := endsAuthority true
  let hostText := text.takeWhile fun c ↦ !ends c
  let rest := text.dropWhile fun c ↦ !ends c
  if hostText.isEmpty then some (ofFile scheme [] rest)
  else if isDrive hostText then some (ofFile scheme [] text)
  else (Host.named? hostText).map fun host ↦
    ofFile scheme (if String.ofList host == "localhost" then [] else host) rest

/-- Reads what follows the scheme. -/
def afterScheme? (scheme text : List Char) : Option Url :=
  if isFileScheme scheme then
    match text with
    | a :: b :: rest =>
      if isSlash true a && isSlash true b then afterFileSlashes? scheme rest
      else some (ofFile scheme [] text)
    | _ => some (ofFile scheme [] text)
  else if isSpecial scheme then afterSlashes? scheme (text.dropWhile (isSlash true))
  else match text with
    | '/' :: '/' :: rest => afterSlashes? scheme rest
    | '/' :: _ => some (withRest scheme none text)
    | _ => none

/-- Whether a character may stand in a scheme after the first one. -/
def isSchemeChar (c : Char) : Bool := c.isAlphanum || c == '+' || c == '-' || c == '.'

/-- Splits off the scheme. -/
def splitScheme? (text : List Char) : Option (List Char × List Char) :=
  match text with
  | [] => none
  | c :: _ =>
    if c.isAlpha then
      match text.dropWhile isSchemeChar with
      | ':' :: rest => some ((text.takeWhile isSchemeChar).map Char.toLower, rest)
      | _ => none
    else none

/-- A text without control characters and spaces at its ends, and without tabs and line ends. -/
def cleaned (text : List Char) : List Char :=
  let isEdge : Char → Bool := fun c ↦ c.toNat ≤ 0x20
  ((text.dropWhile isEdge).reverse.dropWhile isEdge).reverse.filter fun c ↦
    c != '\t' && c != '\n' && c != '\r'

/-- Reads a URL. -/
def parse? (text : List Char) : Option Url :=
  (splitScheme? (cleaned text)).bind fun (scheme, rest) ↦ afterScheme? scheme rest

/-! ### References -/

/-- The URL of a reference without a scheme, seen from `base`. -/
def follow? (base : Url) (text : List Char) : Option Url :=
  let special := isSpecial base.scheme
  let path := text.takeWhile fun c ↦ !endsPath c
  let (query, fragment) := tail special (text.dropWhile fun c ↦ !endsPath c)
  match path with
  | [] => some { base with query := if text.head? = some '?' then query else base.query, fragment }
  | a :: b :: _ =>
    if isSlash special a && isSlash special b then
      afterSlashes? base.scheme
        (if a = '/' ∧ b = '/' then text.drop 2 else text.dropWhile (isSlash special))
    else if isSlash special a then some (withRest base.scheme base.authority text)
    else some { base with path := walkText special base.path.dropLast path, query, fragment }
  | [a] =>
    if isSlash special a then some (withRest base.scheme base.authority text)
    else some { base with path := walkText special base.path.dropLast path, query, fragment }

/-- Reads a reference, which may leave out what it has in common with `base`. -/
def join? (base : Url) (text : List Char) : Option Url :=
  let text := cleaned text
  match splitScheme? text with
  | some (scheme, rest) =>
    if scheme = base.scheme ∧ isSpecial scheme ∧ (rest.takeWhile (isSlash true)).length < 2 then
      follow? base rest
    else afterScheme? scheme rest
  | none => follow? base text

/-! ### Writing -/

/-- Credentials with the sign after them. -/
def spellLogin (a : Authority) : List Char :=
  match a.user, a.password with
  | [], none => []
  | user, none => user ++ ['@']
  | user, some password => user ++ ':' :: password ++ ['@']

/-- An authority with the slashes before it. -/
def spellAuthority : Option Authority → List Char
  | none => []
  | some a => '/' :: '/' :: spellLogin a ++ a.host ++
      match a.port with
      | some port => ':' :: Text.digitsOf port
      | none => []

/-- A path, each segment with the slash before it. -/
def spellPath (path : List (List Char)) : List Char := path.flatMap fun segment ↦ '/' :: segment

/-- A query with the mark before it. -/
def spellQuery : Option (List Char) → List Char
  | none => []
  | some query => '?' :: query

/-- A fragment with the mark before it. -/
def spellFragment : Option (List Char) → List Char
  | none => []
  | some fragment => '#' :: fragment

/-- A URL as characters. A path that starts with two slashes is told from an authority by a dot. -/
def spell (u : Url) : List Char :=
  let dot := match u.authority, u.path with
    | none, [] :: _ :: _ => ['/', '.']
    | _, _ => []
  u.scheme ++ ':' :: spellAuthority u.authority ++ dot ++ spellPath u.path ++ spellQuery u.query ++
    spellFragment u.fragment

/-- The written form of a URL. -/
def text (u : Url) : String := String.ofList u.spell

/-- The size of the written form in bytes. -/
def size (u : Url) : Nat := u.text.utf8ByteSize

/-- Path and query, as a request names them. -/
def target (u : Url) : List Char := spellPath u.path ++ spellQuery u.query

/-! ### Appending -/

/-- The path without an empty segment at its end, but for the path `/`. -/
def popIfEmpty (path : List (List Char)) : List (List Char) :=
  if 1 < path.length ∧ path.getLast? = some [] then path.dropLast else path

/-- The path `/` as a path to append to. -/
def openPath (path : List (List Char)) : List (List Char) := if path = [[]] then [] else path

/-- The path with a text as one more segment. Dots by themselves are left out, as are tabs and line
ends; a text that has nothing else but dots is a dot segment after all. -/
def appendSegment (special : Bool) (path : List (List Char)) (text : List Char) :
    List (List Char) :=
  if String.ofList text == "." || String.ofList text == ".." then path
  else
    let segment := escape (segmentKeeps special)
      (text.filter fun c ↦ c != '\t' && c != '\n' && c != '\r')
    if isUp segment then climb (openPath path) ++ [[]]
    else if isHere segment then openPath path ++ [[]]
    else openPath path ++ [segment]

/-- The URL with texts as further segments of its path. -/
def extend (u : Url) (segments : List (List Char)) : Url :=
  { u with path := segments.foldl (appendSegment (isSpecial u.scheme)) (popIfEmpty u.path) }

/-- The URL with a pair more in its query. -/
def withPair (u : Url) (pair : List Char) : Url :=
  { u with query := some (match u.query with
    | some (c :: query) => c :: query ++ '&' :: pair
    | _ => pair) }

end Url

end ContributionRegistry.Web
