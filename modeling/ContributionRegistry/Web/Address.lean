import ContributionRegistry.Text.Digits

/-!
# IPv4 and IPv6 addresses

Reading and writing of addresses in their usual notation: four numbers joined by points, and eight
groups of hexadecimal digits joined by colons, of which a run of zeros may be left out once. The
last two groups of an IPv6 address may be given as an IPv4 address.

The readers take an address from the front of a text and leave the rest, so that ports, brackets and
scopes can follow. Numbers of IPv4 addresses have no leading zeros here; hosts in URLs are read more
leniently, elsewhere.

In writing, the longest run of at least two zeros is left out, the first one of equally long runs.
-/

namespace ContributionRegistry.Web

/-- The digits at the front of a text, with the rest. -/
def spanDigits (isDigit : Char → Bool) (text : List Char) : List Char × List Char :=
  (text.takeWhile isDigit, text.dropWhile isDigit)

/-! ### IPv4 -/

/-- An IPv4 address. -/
structure Ipv4 where
  /-- The first number. -/
  a : UInt8
  /-- The second number. -/
  b : UInt8
  /-- The third number. -/
  c : UInt8
  /-- The fourth number. -/
  d : UInt8
  deriving DecidableEq, Repr

namespace Ipv4

/-- A number from 0 to 255 without leading zeros. -/
def readOctet (text : List Char) : Option (UInt8 × List Char) :=
  let (digits, rest) := spanDigits Char.isDigit text
  if digits = [] ∨ 3 < digits.length ∨ (digits.head? = some '0' ∧ 1 < digits.length) then none
  else if 255 < Text.ofRadix 10 digits then none
  else some ((Text.ofRadix 10 digits).toUInt8, rest)

/-- A number after a point. -/
def readNextOctet : List Char → Option (UInt8 × List Char)
  | '.' :: rest => readOctet rest
  | _ => none

/-- The address at the front of a text. -/
def read (text : List Char) : Option (Ipv4 × List Char) := do
  let (a, rest) ← readOctet text
  let (b, rest) ← readNextOctet rest
  let (c, rest) ← readNextOctet rest
  let (d, rest) ← readNextOctet rest
  return (⟨a, b, c, d⟩, rest)

/-- The address of a number of 32 bits. -/
def ofNat (n : Nat) : Ipv4 :=
  ⟨(n / 16777216).toUInt8, (n / 65536 % 256).toUInt8, (n / 256 % 256).toUInt8, (n % 256).toUInt8⟩

/-- The written form. -/
def spell (ip : Ipv4) : List Char :=
  Text.digitsOf ip.a.toNat ++ '.' :: Text.digitsOf ip.b.toNat ++ '.' :: Text.digitsOf ip.c.toNat ++
    '.' :: Text.digitsOf ip.d.toNat

end Ipv4

/-! ### IPv6 -/

/-- An IPv6 address: eight groups of sixteen bits. -/
structure Ipv6 where
  /-- The groups, the first one first. -/
  groups : List Nat
  deriving DecidableEq, Repr

namespace Ipv6

/-- A group of one to four hexadecimal digits. -/
def readGroup (text : List Char) : Option (Nat × List Char) :=
  let (digits, rest) := spanDigits Text.isHexDigit text
  if digits = [] ∨ 4 < digits.length then none else some (Text.ofRadix 16 digits, rest)

/-- What `read` reads, after a colon unless it comes first. -/
def afterColon {α : Type} (first : Bool) (read : List Char → Option (α × List Char))
    (text : List Char) : Option (α × List Char) :=
  if first then read text
  else match text with
    | ':' :: rest => read rest
    | _ => none

/-- Groups joined by colons, at most `room` of them, and whether the last two were given as an IPv4
address. -/
def readGroups : Nat → Bool → List Char → List Nat × Bool × List Char
  | 0, _, text => ([], false, text)
  | room + 1, first, text =>
    match if 1 ≤ room then afterColon first Ipv4.read text else none with
    | some (ip, rest) =>
      ([ip.a.toNat * 256 + ip.b.toNat, ip.c.toNat * 256 + ip.d.toNat], true, rest)
    | none =>
      match afterColon first readGroup text with
      | some (group, rest) =>
        let (groups, quad, rest) := readGroups room false rest
        (group :: groups, quad, rest)
      | none => ([], false, text)

/-- The address at the front of a text. Two colons in a row stand for at least one group of zeros.
-/
def read (text : List Char) : Option (Ipv6 × List Char) :=
  match readGroups 8 true text with
  | (head, quad, rest) =>
    if head.length = 8 then some (⟨head⟩, rest)
    else if quad then none
    else match rest with
      | ':' :: ':' :: rest =>
        let (tail, _, rest) := readGroups (7 - head.length) true rest
        some (⟨head ++ List.replicate (8 - head.length - tail.length) 0 ++ tail⟩, rest)
      | _ => none

/-- How many zeros a list starts with. -/
def leadingZeros (groups : List Nat) : Nat := (groups.takeWhile (· = 0)).length

/-- Start and length of the longest run of zeros, the first one of equally long runs; `before`
groups came before. -/
def longestRun (before : Nat) : List Nat → Nat × Nat
  | [] => (before, 0)
  | g :: rest =>
    let here := leadingZeros (g :: rest)
    let later := longestRun (before + 1) rest
    if later.2 ≤ here then (before, here) else later

/-- Groups joined by colons. -/
def spellGroups (groups : List Nat) : List Char :=
  [':'].intercalate (groups.map (Nat.toDigits 16))

/-- The written form: the longest run of at least two zeros is left out. -/
def spell (ip : Ipv6) : List Char :=
  let (start, length) := longestRun 0 ip.groups
  if 1 < length then
    spellGroups (ip.groups.take start) ++
      ':' :: ':' :: spellGroups (ip.groups.drop (start + length))
  else spellGroups ip.groups

/-- The IPv4 address that an address stands for, if it is one of those that do. -/
def mapped? : Ipv6 → Option Ipv4
  | ⟨[0, 0, 0, 0, 0, 0xFFFF, g, h]⟩ => some (Ipv4.ofNat (g * 65536 + h))
  | _ => none

end Ipv6

end ContributionRegistry.Web
