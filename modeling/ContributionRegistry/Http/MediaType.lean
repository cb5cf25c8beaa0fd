/-!
# Media types

The reading of media types, such as `application/json; charset=utf-8`, as far as it takes to know
whether a body is JSON. Letters count alike in either case.

Parameters are not kept, but they are read: a media type with a parameter that is out of order is
none at all, and a body under it is not taken for JSON. Quoted values are read as their readers do
it, by the first quote after the first character, and without escapes.
-/

namespace ContributionRegistry.Http

/-- The parts of a media type that say what it is: type, subtype, and the part of the subtype behind
its last plus sign. -/
structure MediaType where
  /-- What is before the slash, in lower case. -/
  type : List Char
  /-- What is behind the slash, in lower case and without the suffix. -/
  subtype : List Char
  /-- What is behind the last plus sign of the subtype, if there is one. -/
  suffix? : Option (List Char)
  deriving DecidableEq, Repr

namespace MediaType

/-- Whether a character may stand in names and values. -/
def isToken (c : Char) : Bool := c.isAlphanum || "!#$%&'*+-.^_`|~".toList.contains c

/-- Whether a character may stand in a quoted value. -/
def isQuotable (c : Char) : Bool := 0x20 ≤ c.toNat && c.toNat < 0x7F

/-- What follows a quoted value: blanks, then the end or the next parameter. -/
def afterQuoted (text : List Char) : Option (List Char) :=
  match text.dropWhile (· = ' ') with
  | [] => some []
  | ';' :: rest => some rest
  | _ => none

/-- Goes past the value of a parameter. A quoted value ends at the first quote after its first
character, which may be a quote itself. -/
def dropValue (text : List Char) : Option (List Char) :=
  match text with
  | '"' :: first :: rest =>
    match rest.dropWhile (· ≠ '"') with
    | _ :: after =>
      if (first :: rest.takeWhile (· ≠ '"')).all isQuotable then afterQuoted after else none
    | [] => none
  | ['"'] => none
  | _ =>
    match text.dropWhile isToken with
    | [] => some []
    | ';' :: after => if text.head? = some ';' then none else some after
    | _ => none

/-- Whether what follows a semicolon is a list of parameters; each has a name, an equals sign and a
value. Every round goes past a character at least. -/
def areParameters : Nat → List Char → Bool
  | _, [] => true
  | 0, _ => false
  | rounds + 1, ' ' :: rest => areParameters rounds rest
  | rounds + 1, text =>
    match text.dropWhile isToken with
    | '=' :: value =>
      if text.head? = some '=' then false
      else match dropValue value with
        | some rest => areParameters rounds rest
        | none => false
    | _ => false

/-- Splits a subtype at its last plus sign; a plus sign at its start does not count. -/
def splitSuffix (subtype : List Char) : List Char × Option (List Char) :=
  match subtype.reverse.dropWhile (· ≠ '+') with
  | _ :: before =>
    if before.isEmpty then (subtype, none)
    else (before.reverse, some (subtype.reverse.takeWhile (· ≠ '+')).reverse)
  | [] => (subtype, none)

/-- Reads a media type. -/
def parse? (text : String) : Option MediaType :=
  match text.toList.dropWhile isToken with
  | '/' :: rest =>
    let type := text.toList.takeWhile isToken
    let subtype := rest.takeWhile isToken
    let read : MediaType :=
      let (subtype, suffix?) := splitSuffix (subtype.map Char.toLower)
      { type := type.map Char.toLower, subtype, suffix? }
    if type.isEmpty then none
    else match rest.dropWhile isToken with
      | [] => some read
      | ';' :: parameters =>
        if !subtype.isEmpty && areParameters parameters.length parameters then some read else none
      | _ => none
  | _ => none

/-- Whether bodies of a media type are JSON. -/
def isJson (m : MediaType) : Bool :=
  String.ofList m.type == "application" &&
    (String.ofList m.subtype == "json" || m.suffix?.any fun s ↦ String.ofList s == "json")

end MediaType

end ContributionRegistry.Http
