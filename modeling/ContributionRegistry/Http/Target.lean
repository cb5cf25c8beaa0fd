/-!
# Request targets

What a request asks for: usually a path with a query, but a whole URL or a bare authority are
targets too. Which characters may stand where is laid down (RFC 7230, with some leniency); a target
that has others is refused as a whole. A fragment is dropped.

Nothing is decoded here. Path and query are kept as written (`Target`), so that a slash that stands
escaped in a segment is still told from one that divides segments when the path is taken apart.

An authority is read in one pass that counts colons and brackets (`Target.Scan`): what credentials
and brackets hold does not count towards what may stand in the rest.
-/

namespace ContributionRegistry.Http

/-- Path and query of a target, as written. The path of a bare authority is empty. -/
structure Target where
  /-- The path as written. -/
  path : List Char
  /-- What is behind the question mark, if there is one. -/
  query : Option (List Char)
  deriving DecidableEq, Repr

namespace Target

/-! ### Paths and queries -/

/-- Whether a character leaves a trace on paper or lies beyond ASCII. -/
def isInked (c : Char) : Bool := 0x20 < c.toNat && c.toNat != 0x7F

/-- Whether a character may stand in a path. -/
def pathAdmits (c : Char) : Bool := isInked c && c != '<' && c != '>' && c != '`'

/-- Whether a character may stand in a query. -/
def queryAdmits (c : Char) : Bool := isInked c && c != '"' && c != '<' && c != '>'

/-- Whether a character ends a path. -/
def endsPath (c : Char) : Bool := c = '?' || c = '#'

/-- Path and query of a text. Behind a fragment mark anything may stand. -/
def pathAndQuery? (text : List Char) : Option Target :=
  let path := text.takeWhile fun c ↦ !endsPath c
  let query := match text.dropWhile fun c ↦ !endsPath c with
    | '?' :: rest => some (rest.takeWhile (· ≠ '#'))
    | _ => none
  if path.all pathAdmits ∧ (query.getD []).all queryAdmits then some ⟨path, query⟩ else none

/-! ### Authorities -/

/-- Whether a character may stand in an authority. A percent sign may only stand in credentials and
between brackets. -/
def authorityAdmits (c : Char) : Bool :=
  c.isAlphanum || "!$&'()*+,-.:;=@[]_~%".toList.contains c

/-- Whether a character ends an authority. -/
def endsAuthority (c : Char) : Bool := c = '/' || c = '?' || c = '#'

/-- What is counted on the way through an authority. -/
structure Scan where
  /-- How many colons there were. -/
  colons : Nat := 0
  /-- Whether there was an opening bracket. -/
  opened : Bool := false
  /-- Whether there was a closing bracket. -/
  closed : Bool := false
  /-- Whether there was a percent sign. -/
  percent : Bool := false

/-- Goes past a character of an authority. What credentials and brackets hold is forgotten behind
them. -/
def Scan.step (s : Scan) (c : Char) : Option Scan :=
  if c = ':' then (if 8 ≤ s.colons then none else some { s with colons := s.colons + 1 })
  else if c = '[' then (if s.percent || s.opened then none else some { s with opened := true })
  else if c = ']' then
    if !s.opened || s.closed then none
    else some { s with closed := true, colons := 0, percent := false }
  else if c = '@' then some { s with colons := 0, percent := false }
  else if c = '%' then some { s with percent := true }
  else if authorityAdmits c then some s
  else none

/-- Whether a text is an authority: at most one colon and no percent sign outside of credentials and
brackets, brackets in pairs, and something behind the credentials. -/
def isAuthority (text : List Char) : Bool :=
  match text.foldlM Scan.step {} with
  | some s =>
    s.opened == s.closed && s.colons ≤ 1 && !s.percent && text.getLast? != some '@'
  | none => false

/-! ### Schemes -/

/-- Whether a character may stand in a scheme. -/
def isSchemeChar (c : Char) : Bool := c.isAlphanum || "+-.~".toList.contains c

/-- What follows the scheme and its two slashes. There may be no scheme; one that is too long is
refused. -/
def afterScheme (text : List Char) : Option (Option (List Char)) :=
  match text.dropWhile isSchemeChar with
  | ':' :: '/' :: '/' :: rest =>
    if 64 < (text.takeWhile isSchemeChar).length then none else some (some rest)
  | _ => some none

/-! ### Targets -/

/-- The largest size of a target in bytes. -/
def largestSize : Nat := 65534

/-- A target that is no path: a bare authority, or a whole URL, whose path is `/` if it is left
out. -/
def absolute? (text : List Char) : Option Target :=
  match afterScheme text with
  | none => none
  | some none => if isAuthority text then some ⟨[], none⟩ else none
  | some (some rest) =>
    let authority := rest.takeWhile fun c ↦ !endsAuthority c
    if authority.isEmpty ∨ ¬ isAuthority authority then none
    else (pathAndQuery? (rest.dropWhile fun c ↦ !endsAuthority c)).map fun t ↦
      if t.path.isEmpty then { t with path := ['/'] } else t

/-- Reads a target. -/
def parse? (text : String) : Option Target :=
  if largestSize < text.utf8ByteSize then none
  else match text.toList with
    | [] => none
    | ['*'] => some ⟨['*'], none⟩
    | '/' :: rest => pathAndQuery? ('/' :: rest)
    | all => absolute? all

end Target

end ContributionRegistry.Http
