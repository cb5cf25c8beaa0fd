import ContributionRegistry.Web.Percent

/-!
# Form-encoded pairs

Names and values as query strings carry them: pairs joined by ampersands, name and value by an
equals sign, a space as a plus sign, and everything but letters, digits and four marks as percent
escapes of UTF-8 bytes. Reading takes any bytes: what is no UTF-8 is replaced, and a pair without an
equals sign has an empty value.

Nothing that has a meaning in a query stands for itself in an encoded text, so whatever the name and
the value are, they are read from their pair (`decode_encodePair`, proved elsewhere).
-/

namespace ContributionRegistry.Web.Form

/-- Whether a character stands for itself. -/
def standsForItself (c : Char) : Bool :=
  c.isAlphanum || c == '*' || c == '-' || c == '.' || c == '_'

/-- A name or value as it stands in a form. -/
def encodeText (text : List Char) : List Char :=
  text.flatMap fun c ↦ if c = ' ' then ['+'] else escape standsForItself [c]

/-- A pair as it stands in a form. -/
def encodePair (name value : List Char) : List Char :=
  encodeText name ++ '=' :: encodeText value

/-- The pieces of a byte sequence between occurrences of a byte. There is always at least one. -/
def splitOn (mark : UInt8) : List UInt8 → List (List UInt8)
  | [] => [[]]
  | b :: rest =>
    if b = mark then [] :: splitOn mark rest
    else match splitOn mark rest with
      | [] => [[b]]
      | piece :: pieces => (b :: piece) :: pieces

/-- What a name or value stands for. -/
def decodeText (bytes : List UInt8) : String :=
  String.ofList
    (Text.Utf8.decodeLossy (unescape (bytes.map fun b ↦ if b = 0x2B then 0x20 else b)))

/-- A pair: name and value are divided by the first equals sign. -/
def decodePair (bytes : List UInt8) : String × String :=
  (decodeText (bytes.takeWhile (· ≠ 0x3D)), decodeText ((bytes.dropWhile (· ≠ 0x3D)).drop 1))

/-- The pairs of a form, in order. Nothing between two ampersands is no pair. -/
def decode (bytes : List UInt8) : List (String × String) :=
  ((splitOn 0x26 bytes).filter fun piece ↦ !piece.isEmpty).map decodePair

/-! ### Small facts -/

/-- There is nothing to encode in the empty text. -/
theorem encodeText_nil : encodeText [] = [] := rfl

/-- Texts are encoded character by character. -/
theorem encodeText_append (a b : List Char) :
    encodeText (a ++ b) = encodeText a ++ encodeText b :=
  List.flatMap_append

end ContributionRegistry.Web.Form
