import ContributionRegistry.Amount
import ContributionRegistry.Calendar.Timestamp
import ContributionRegistry.Decimal.Shortest
import ContributionRegistry.Json.Reader
import ContributionRegistry.Period
import ContributionRegistry.Text.Printing

/-!
# Decoding JSON values

From trees to the scalars of the registry, and the layouts of its records. Decoders walk the tree in
reading order and stop at the first problem.

**Problems.** A text is malformed, or it is JSON of the wrong content (`DecodeFault`); then there is
a complaint, with the place of the value in its record. A value that is not well-formed is never
complained about for its kind, since the mistake in the text comes first. Reading an amount may also
be abandoned, which is neither.

**Records.** A record is an object with named fields in any order, or an array of its fields in the
order of its layout, where those at the end may be left out that an object may leave out too.
Members with other names are passed over. A repeated field is found when its name comes up the
second time, a missing one at the end of the object.

Decoding a record takes two steps (`Layout.decode`). Opening it checks every value against its field
and yields the values by name (`Layout.open`); then the fields are read in the order of the record.
What can go wrong in the order of the text has gone wrong in the first step.
-/

namespace ContributionRegistry.Json

/-! ### Problems -/

/-- What is wrong with a well-formed text. -/
inductive Complaint where
  | missingField (name : String)
  | duplicateField (name : String)
  /-- A value of another kind than the one expected. -/
  | wrongKind (found expected : String)
  /-- An array with too few fields. -/
  | wrongLength (length : Nat) (expected : String)
  | invalidPeriod (reason : InvalidPeriod)
  | invalidAmount (reason : InvalidAmount)
  | invalidDate (raw : String)
  | invalidTimestamp
  deriving DecidableEq, Repr

/-- The wording of each complaint. -/
def Complaint.message : Complaint → String
  | .missingField name => s!"missing field `{name}`"
  | .duplicateField name => s!"duplicate field `{name}`"
  | .wrongKind found expected => s!"invalid type: {found}, expected {expected}"
  | .wrongLength length expected => s!"invalid length {length}, expected {expected}"
  | .invalidPeriod reason => reason.message
  | .invalidAmount reason => reason.message
  | .invalidDate raw => s!"invalid date: {raw}"
  | .invalidTimestamp => "invalid timestamp"

/-- Where in a record a problem lies. -/
inductive Place where
  | field (name : String)
  | index (i : Nat)
  deriving DecidableEq, Repr

/-- The place as messages show it. -/
def Place.text : Place → String
  | .field name => name
  | .index i => s!"[{i}]"

/-- Why a text was not decoded. -/
inductive DecodeFault where
  /-- The text is no JSON. -/
  | malformed
  /-- The text is JSON, of the wrong content. The place is that of the value in its record. -/
  | unfit (place : Option Place) (complaint : Complaint)
  deriving DecidableEq, Repr

/-- What decoding gives. -/
abbrev Decoded (α : Type) : Type := Attempt DecodeFault α

/-- The text is no JSON. -/
def Decoded.malformed {α : Type} : Decoded α := .refuse .malformed

/-- The value does not fit. -/
def Decoded.unfit {α : Type} (complaint : Complaint) : Decoded α := .refuse (.unfit none complaint)

/-- The same result, with the place of the value put to a complaint about it. -/
def Decoded.at {α : Type} (place : Place) : Decoded α → Decoded α :=
  Attempt.restate fun
    | .malformed => .malformed
    | .unfit _ complaint => .unfit (some place) complaint

/-! ### Scalars -/

/-- A floating-point number in a message. -/
def describeDouble (negative : Bool) (x : Decimal.Binary64) : String :=
  let digits := String.ofList (x.shortest .even).compact
  if negative then s!"floating point `-{digits}`" else s!"floating point `{digits}`"

/-- Refuses a value for its kind. A value that is not even well-formed is refused for that. -/
def wrongKind {α : Type} (expected : String) : Json → Decoded α
  | .null => .unfit (.wrongKind "null" expected)
  | .bool b => .unfit (.wrongKind s!"boolean `{b}`" expected)
  | .number literal =>
    match literal.value with
    | .integer n => .unfit (.wrongKind s!"integer `{n}`" expected)
    | .double negative x => .unfit (.wrongKind (describeDouble negative x) expected)
    | .outOfRange => .malformed
  | .string (some content) => .unfit (.wrongKind ("string " ++ Text.quoted content) expected)
  | .string none => .malformed
  | .array _ => .unfit (.wrongKind "sequence" expected)
  | .object _ => .unfit (.wrongKind "map" expected)
  | .broken => .malformed

/-- A string, described as `expected` where it is missed. -/
def textFor (expected : String) : Json → Decoded String
  | .string (some content) => .ok content
  | value => wrongKind expected value

/-- A string. -/
def toText : Json → Decoded String := textFor "a string"

/-- A period, given as its text. -/
def toPeriod (value : Json) : Decoded Period := do
  match Period.parse (← toText value) with
  | .ok p => return p
  | .error reason => .unfit (.invalidPeriod reason)

/-- A date of birth, given as a date or a timestamp. -/
def toBirthDate (value : Json) : Decoded Calendar.Date := do
  let raw ← toText value
  match Calendar.BirthDate.parse? raw with
  | some date => return date
  | none => .unfit (.invalidDate raw)

/-- A timestamp, given as its text. -/
def toTimestamp (value : Json) : Decoded Calendar.Timestamp := do
  let raw ← textFor "an RFC 3339 formatted date and time string" value
  match Calendar.Timestamp.parse? raw with
  | some t => return t
  | none => .unfit .invalidTimestamp

/-- A timestamp, or `null` for none. -/
def toTimestamp? : Json → Decoded (Option Calendar.Timestamp)
  | .null => .ok none
  | value => some <$> toTimestamp value

/-- The text of a floating-point number without an exponent. -/
def doubleText (negative : Bool) (x : Decimal.Binary64) : String :=
  String.ofList ((if negative then ['-'] else []) ++ (x.shortest .up).positional)

/-- An amount, given as its text or as a number. An integer is taken exactly; any other number by
the shortest decimal that denotes the same floating-point number. -/
def toAmount : Json → Decoded Amount
  | .string (some content) => (Amount.parse content).restate fun e ↦ .unfit none (.invalidAmount e)
  | .number literal =>
    match literal.value with
    | .integer n =>
      (Attempt.ofExcept (Amount.ofUnits n)).restate fun e ↦ .unfit none (.invalidAmount e)
    | .double negative x =>
      (Amount.parse (doubleText negative x)).restate fun e ↦ .unfit none (.invalidAmount e)
    | .outOfRange => .malformed
  | value => wrongKind "a decimal amount as a string or number" value

/-- Any value at all, as long as the text is well-formed. -/
def toAnything (value : Json) : Decoded Unit :=
  if value.isWhole then .ok () else .malformed

/-! ### Records -/

/-- A field of a record. -/
structure Field where
  /-- The name of the field as members have it. -/
  name : String
  /-- Decodes the field's value, to learn whether it fits. -/
  fits : Json → Decoded Unit
  /-- Whether a record must have the field. -/
  required : Bool := true

/-- Whether a decoder succeeds. -/
def fitting {α : Type} (decode : Json → Decoded α) (value : Json) : Decoded Unit :=
  (decode value).map fun _ ↦ ()

/-- The name of a record and its fields in order. -/
structure Layout where
  /-- The name of the record in messages. -/
  name : String
  /-- The fields in the order in which arrays have them. -/
  fields : List Field

/-- The record in messages. -/
def Layout.description (l : Layout) : String := s!"struct {l.name}"

/-- The record as an array in messages. -/
def Layout.arrayDescription (l : Layout) : String :=
  s!"struct {l.name} with {l.fields.length} elements"

/-- Values of a record's fields, by name. -/
abbrev Opened : Type := List (String × Json)

/-- Goes through the members of an object in order. `seen` holds the fields met before. -/
def openMembers (fields : List Field) (seen : Opened) : List (Option String × Json) → Decoded Opened
  | [] => .ok seen
  | (none, _) :: _ => .malformed
  | (some name, value) :: rest =>
    match fields.find? (·.name == name) with
    | none => do
      toAnything value
      openMembers fields seen rest
    | some field =>
      if seen.any (·.1 == name) then .unfit (.duplicateField name)
      else do
        (field.fits value).at (.field name)
        openMembers fields (seen ++ [(name, value)]) rest

/-- Complains about the first required field that is not there. -/
def requireAll (seen : Opened) : List Field → Decoded Unit
  | [] => .ok ()
  | field :: rest =>
    if field.required && !seen.any (·.1 == field.name) then .unfit (.missingField field.name)
    else requireAll seen rest

/-- Goes through the items of an array and the fields side by side; `i` of them came before. An
array may not have items beyond the last field, and has no value for the fields beyond its last
item. -/
def openItems (l : Layout) (i : Nat) : List Field → List Json → Decoded Opened
  | [], [] => .ok []
  | [], _ :: _ => .malformed
  | field :: fields, [] =>
    if field.required then .unfit (.wrongLength i l.arrayDescription)
    else openItems l (i + 1) fields []
  | field :: fields, value :: rest => do
    (field.fits value).at (.index i)
    let opened ← openItems l (i + 1) fields rest
    return (field.name, value) :: opened

/-- The values of a record's fields, all of which fit. -/
def Layout.open (l : Layout) : Json → Decoded Opened
  | .object members => do
    let opened ← openMembers l.fields [] members
    requireAll opened l.fields
    return opened
  | .array items => openItems l 0 l.fields items
  | value => wrongKind l.description value

/-- The value of a field, decoded; a field that is not there counts as `null`. -/
def Opened.get {α : Type} (opened : Opened) (name : String) (decode : Json → Decoded α) :
    Decoded α :=
  decode ((opened.lookup name).getD .null)

/-- Decodes a record: it is opened, and then its fields are read. -/
def Layout.decode {α : Type} (l : Layout) (read : Opened → Decoded α) (value : Json) :
    Decoded α := do
  let opened ← l.open value
  read opened

/-! ### Lists and whole texts -/

/-- A list of values of one kind. -/
def toList {α : Type} (decode : Json → Decoded α) : Json → Decoded (List α)
  | .array items => items.mapM decode
  | value => wrongKind "a sequence" value

/-- Decodes a source as one value; nothing may follow it. -/
def decode {α : Type} (decodeValue : Json → Decoded α) (src : Source) : Decoded α := do
  let document := parse src
  let a ← decodeValue document.value
  if document.ended then return a else .malformed

/-- Decodes a text as one value. -/
def decodeText {α : Type} (decodeValue : Json → Decoded α) (text : String) : Decoded α :=
  decode decodeValue (Source.ofText text.toList)

end ContributionRegistry.Json
