import ContributionRegistry.Web.Address

/-!
# Socket addresses

An IP address with a port, as settings name the address to listen on. Names of hosts are no
addresses.

An IPv4 address is followed by a colon and the port. An IPv6 address stands in brackets, possibly
with the number of a scope behind a percent sign, and the port follows the brackets. Numbers are
read up to their largest value (`readCapped`), and the whole text must be used up. Which texts that
admits is stated as a grammar elsewhere.
-/

namespace ContributionRegistry.Web

/-- An IP address with a port; an IPv6 address may have a scope. -/
inductive SocketAddress where
  | v4 (ip : Ipv4) (port : Nat)
  | v6 (ip : Ipv6) (scope port : Nat)
  deriving DecidableEq, Repr

namespace SocketAddress

/-- A number of at most `largest`; leading zeros do not matter. -/
def readCapped (largest : Nat) (text : List Char) : Option (Nat × List Char) :=
  let (digits, rest) := spanDigits Char.isDigit text
  let n := Text.ofRadix 10 digits
  if digits = [] ∨ largest < n then none else some (n, rest)

/-- A colon and a port, and nothing after it. -/
def readPort : List Char → Option Nat
  | ':' :: rest =>
    match readCapped 65535 rest with
    | some (port, []) => some port
    | _ => none
  | _ => none

/-- The scope of an address: a percent sign and a number. Without one the scope is 0. -/
def readScope : List Char → Nat × List Char
  | '%' :: rest => (readCapped 4294967295 rest).getD (0, '%' :: rest)
  | rest => (0, rest)

/-- Reads an IPv6 address in brackets, with a port. -/
def parseV6? (text : List Char) : Option SocketAddress := do
  let (ip, rest) ← Ipv6.read text
  match readScope rest with
  | (scope, ']' :: rest) => (readPort rest).map (.v6 ip scope)
  | _ => none

/-- Reads a socket address that takes up the whole text. -/
def parse? (text : String) : Option SocketAddress :=
  match text.toList with
  | '[' :: rest => parseV6? rest
  | all => do
    let (ip, rest) ← Ipv4.read all
    (readPort rest).map (.v4 ip)

/-- An IPv6 address as it stands in a socket address. -/
def spellV6 (ip : Ipv6) : List Char :=
  match ip.mapped? with
  | some quad => "::ffff:".toList ++ quad.spell
  | none => ip.spell

/-- The written form. A scope of 0 is left out. -/
def text : SocketAddress → String
  | .v4 ip port => String.ofList (ip.spell ++ ':' :: Text.digitsOf port)
  | .v6 ip scope port =>
    let mark := if scope = 0 then [] else '%' :: Text.digitsOf scope
    String.ofList ('[' :: spellV6 ip ++ mark ++ ']' :: ':' :: Text.digitsOf port)

end SocketAddress

end ContributionRegistry.Web
