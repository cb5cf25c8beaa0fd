/-!
# UTF-8

Bytes of a text and back. Decoding gives one entry per character, and one empty entry per maximal
run of bytes that begins a character and does not finish it, so that no byte below 128 is ever
swallowed. From that both the strict and the lossy reading of a byte sequence follow
(`Utf8.decode?`, `Utf8.decodeLossy`).

Keys in paths are read strictly, queries lossily, and JSON keeps the empty entries, since a string
with one in it is no obstacle to passing over the string.
-/

namespace ContributionRegistry.Text.Utf8

/-- The bytes of a text. -/
def encode (text : List Char) : List UInt8 :=
  text.flatMap String.utf8EncodeChar

/-- Whether a byte continues a character. -/
def isContinuation (b : UInt8) : Bool := 0x80 ≤ b && b ≤ 0xBF

/-- The number of bytes after the first one of a character; none after a byte that starts none. -/
def followers (lead : UInt8) : Nat :=
  if 0xC2 ≤ lead && lead ≤ 0xDF then 1
  else if 0xE0 ≤ lead && lead ≤ 0xEF then 2
  else if 0xF0 ≤ lead && lead ≤ 0xF4 then 3
  else 0

/-- Whether `b` may be the second byte of a character that starts with `lead`. This keeps out
overlong forms, surrogates and numbers beyond the last character. -/
def mayFollow (lead b : UInt8) : Bool :=
  isContinuation b &&
    (if lead = 0xE0 then 0xA0 ≤ b else if lead = 0xED then b ≤ 0x9F
      else if lead = 0xF0 then 0x90 ≤ b else if lead = 0xF4 then b ≤ 0x8F else true)

/-- The low six bits of a continuation byte. -/
def payload (b : UInt8) : Nat := b.toNat % 64

/-- The characters of a byte sequence, with an empty entry for each run of bytes that is none. -/
def decode : List UInt8 → List (Option Char)
  | [] => []
  | [a] => if a < 0x80 then [some (Char.ofNat a.toNat)] else [none]
  | [a, b] =>
    if a < 0x80 then some (Char.ofNat a.toNat) :: decode [b]
    else if followers a = 0 then none :: decode [b]
    else if mayFollow a b then
      if followers a = 1 then [some (Char.ofNat (a.toNat % 32 * 64 + payload b))] else [none]
    else none :: decode [b]
  | [a, b, c] =>
    if a < 0x80 then some (Char.ofNat a.toNat) :: decode [b, c]
    else if followers a = 0 then none :: decode [b, c]
    else if mayFollow a b then
      if followers a = 1 then
        some (Char.ofNat (a.toNat % 32 * 64 + payload b)) :: decode [c]
      else if isContinuation c then
        if followers a = 2 then
          [some (Char.ofNat ((a.toNat % 16 * 64 + payload b) * 64 + payload c))]
        else [none]
      else none :: decode [c]
    else none :: decode [b, c]
  | a :: b :: c :: d :: rest =>
    if a < 0x80 then some (Char.ofNat a.toNat) :: decode (b :: c :: d :: rest)
    else if followers a = 0 then none :: decode (b :: c :: d :: rest)
    else if mayFollow a b then
      if followers a = 1 then
        some (Char.ofNat (a.toNat % 32 * 64 + payload b)) :: decode (c :: d :: rest)
      else if isContinuation c then
        if followers a = 2 then
          some (Char.ofNat ((a.toNat % 16 * 64 + payload b) * 64 + payload c)) :: decode (d :: rest)
        else if isContinuation d then
          some (Char.ofNat (((a.toNat % 8 * 64 + payload b) * 64 + payload c) * 64 + payload d)) ::
            decode rest
        else none :: decode (d :: rest)
      else none :: decode (c :: d :: rest)
    else none :: decode (b :: c :: d :: rest)

/-- The text of a byte sequence, with U+FFFD for each run of bytes that is no character. -/
def decodeLossy (bytes : List UInt8) : List Char :=
  (decode bytes).map (·.getD '\uFFFD')

/-- The text of a byte sequence, if all of it is UTF-8. -/
def decode? (bytes : List UInt8) : Option (List Char) :=
  (decode bytes).mapM id

end ContributionRegistry.Text.Utf8
