import ContributionRegistry.Json.Value

/-!
# Writing JSON texts

The compact text of a tree: no gaps, members in their order, and in strings only what must be
escaped, in two characters where that is possible and else as four hexadecimal digits.

Everything a service sends and everything it caches is written here (`Json.render`). Trees of
records have no floating-point numbers, so how such numbers are written does not matter; numbers are
written as the literals that they are.
-/

namespace ContributionRegistry.Json

/-- A hexadecimal digit, in lower case. -/
def hexChar (n : Nat) : Char := Nat.digitChar n

/-- A character as it stands in a string. -/
def escapeChar (c : Char) : List Char :=
  if c = '"' then ['\\', '"']
  else if c = '\\' then ['\\', '\\']
  else if 0x20 ≤ c.toNat then [c]
  else if c = '\x08' then ['\\', 'b']
  else if c = '\x0c' then ['\\', 'f']
  else if c = '\n' then ['\\', 'n']
  else if c = '\r' then ['\\', 'r']
  else if c = '\t' then ['\\', 't']
  else ['\\', 'u', '0', '0', hexChar (c.toNat / 16), hexChar (c.toNat % 16)]

/-- A string with its quotes. -/
def writeString (text : List Char) : List Char :=
  '"' :: text.flatMap escapeChar ++ ['"']

/-- A number as its literal says. -/
def writeNumber (l : NumberLiteral) : List Char :=
  (if l.negative then ['-'] else []) ++ l.whole ++
    (if l.fraction.isEmpty then [] else '.' :: l.fraction) ++
    match l.exponent with
    | none => []
    | some e => 'e' :: (if e < 0 then ['-'] else []) ++ Nat.toDigits 10 e.natAbs

mutual

/-- A value as text. Where the tree is broken, or a string denotes no text, nothing is written. -/
def write : Json → List Char
  | .null => "null".toList
  | .bool true => "true".toList
  | .bool false => "false".toList
  | .number literal => writeNumber literal
  | .string content => writeString (content.getD "").toList
  | .array items => '[' :: writeItems items ++ [']']
  | .object members => '\x7b' :: writeMembers members ++ ['\x7d']
  | .broken => []

/-- Items with commas between them. -/
def writeItems : List Json → List Char
  | [] => []
  | [item] => write item
  | item :: rest => write item ++ ',' :: writeItems rest

/-- Members with commas between them. -/
def writeMembers : List (Option String × Json) → List Char
  | [] => []
  | [(name, value)] => writeString (name.getD "").toList ++ ':' :: write value
  | (name, value) :: rest =>
    writeString (name.getD "").toList ++ ':' :: write value ++ ',' :: writeMembers rest

end

/-- The compact text of a value. -/
def render (value : Json) : String := String.ofList (write value)

end ContributionRegistry.Json
