import ContributionRegistry.Web.Address
import ContributionRegistry.Web.Domain
import ContributionRegistry.Web.Percent

/-!
# Hosts in URLs

A host is a name or an IP address. Names are case-insensitive and written in lower case and in
ASCII; a name whose last label is a number can only be an IPv4 address, which may be given in fewer
than four numbers and in hexadecimal or octal digits.

An IPv6 address stands in brackets. Hosts of schemes that are not of the web are taken as they are,
with what must be escaped escaped (`free?`).
-/

namespace ContributionRegistry.Web.Host

/-- Characters that no host has. -/
def isForbidden (c : Char) : Bool :=
  c.toNat = 0 || c = '\t' || c = '\n' || c = '\r' || " #/:<>?@[\\]^|".toList.contains c

/-- Characters that no name has. -/
def isForbiddenInName (c : Char) : Bool :=
  isForbidden c || c.toNat < 0x20 || c.toNat = 0x7F || c = '%'

/-! ### IPv4 addresses -/

/-- Digits of one of three bases as a number; no digits at all are zero. -/
def numberOf? (radix : Nat) (digits : List Char) : Option Nat :=
  if digits.all fun c ↦ Text.isHexDigit c && Text.digitValue c < radix then
    some (Text.ofRadix radix digits)
  else none

/-- A part of an IPv4 address: hexadecimal after `0x`, octal after `0`, else decimal. -/
def part? : List Char → Option Nat
  | [] => none
  | '0' :: 'x' :: digits | '0' :: 'X' :: digits => numberOf? 16 digits
  | '0' :: c :: digits => numberOf? 8 (c :: digits)
  | digits => numberOf? 10 digits

/-- The parts of a name without an empty one at the end. -/
def trimmedParts (name : List Char) : List (List Char) :=
  let parts := Text.pieces (· = '.') name
  if 1 < parts.length ∧ parts.getLast? = some [] then parts.dropLast else parts

/-- Whether the last part of a name is a number. -/
def endsInNumber (name : List Char) : Bool :=
  match (trimmedParts name).getLast? with
  | some part => (!part.isEmpty && part.all Char.isDigit) || (part? part).isSome
  | none => false

/-- The address of up to four numbers: all but the last one are a byte each, the last one fills the
rest. -/
def ofNumbers? (numbers : List Nat) : Option Ipv4 :=
  match numbers.reverse with
  | [] => none
  | last :: others =>
    if 3 < others.length ∨ others.any (255 < ·) ∨ Nat.pow 256 (4 - others.length) ≤ last then none
    else some (Ipv4.ofNat (others.reverse.zipIdx.foldl
      (fun n (byte, i) ↦ n + byte * Nat.pow 256 (3 - i)) last))

/-- Reads a name as an IPv4 address. -/
def ipv4? (name : List Char) : Option Ipv4 :=
  ((trimmedParts name).mapM part?).bind ofNumbers?

/-! ### Hosts -/

/-- An IPv6 address between brackets, as it stands in a URL. -/
def bracketed? (text : List Char) : Option (List Char) :=
  match text.reverse with
  | ']' :: inner =>
    match Ipv6.read inner.reverse with
    | some (ip, []) => some ('[' :: ip.spell ++ [']'])
    | _ => none
  | _ => none

/-- The host of a URL whose scheme knows names of hosts. -/
def named? (text : List Char) : Option (List Char) :=
  match text with
  | '[' :: inner => bracketed? inner
  | _ => do
    let name ← Domain.ascii? (← Text.Utf8.decode? (unescape (Text.Utf8.encode text)))
    if name.isEmpty ∨ name.any isForbiddenInName then none
    else if endsInNumber name then (ipv4? name).map Ipv4.spell
    else some name

/-- The host of any other URL, which may be empty. -/
def free? (text : List Char) : Option (List Char) :=
  match text with
  | '[' :: inner => bracketed? inner
  | _ =>
    if text.any isForbidden then none
    else some (escape (fun c ↦ 0x20 ≤ c.toNat && c.toNat < 0x7F) text)

end ContributionRegistry.Web.Host
