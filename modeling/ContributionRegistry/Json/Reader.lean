import ContributionRegistry.Json.Value

/-!
# Reading JSON texts

The tree of a JSON text (RFC 8259). The source is a list of characters with empty entries where
bytes were no characters; strings may hold such entries, nothing else may.

Reading never fails: a mistake becomes the leaf `Json.broken`, and reading stops there (`rest =
none`). What follows a mistake is not looked at, so the decoders see the same problem first that a
reader meets who decodes while reading.

The functions are by recursion on a bound that `parse` takes from the length of the text; each
bracket and each separator uses up two units of it at most. Strings are gathered unit by unit
(`Gathered`), because two escapes may make one character and a single half of a pair makes none.
-/

namespace ContributionRegistry.Json

/-- Characters, with empty entries for bytes that are none. -/
abbrev Source : Type := List (Option Char)

/-- The source of a text. -/
def Source.ofText (text : List Char) : Source := text.map some

/-- The four characters that may stand between the parts of a text. -/
def isGap : Option Char → Bool
  | some c => c = ' ' || c = '\n' || c = '\t' || c = '\r'
  | none => false

/-- The source from its first character on that is no gap. -/
def skipGaps (src : Source) : Source := src.dropWhile isGap

/-! ### Strings -/

/-- The value of a hexadecimal digit. -/
def hexDigit? (c : Char) : Option Nat :=
  if c.isDigit then some (c.toNat - '0'.toNat)
  else if 'a' ≤ c ∧ c ≤ 'f' then some (c.toNat - 'a'.toNat + 10)
  else if 'A' ≤ c ∧ c ≤ 'F' then some (c.toNat - 'A'.toNat + 10)
  else none

/-- The number of four hexadecimal digits. -/
def hexUnit? (a b c d : Option Char) : Option Nat := do
  let a ← a.bind hexDigit?
  let b ← b.bind hexDigit?
  let c ← c.bind hexDigit?
  let d ← d.bind hexDigit?
  return ((a * 16 + b) * 16 + c) * 16 + d

/-- Whether a unit is the first of a pair that denotes one character. -/
def isHighUnit (n : Nat) : Bool := 0xD800 ≤ n && n < 0xDC00

/-- Whether a unit is the second of a pair that denotes one character. -/
def isLowUnit (n : Nat) : Bool := 0xDC00 ≤ n && n < 0xE000

/-- The character of a pair of units. -/
def ofPair (high low : Nat) : Char :=
  Char.ofNat (0x10000 + (high - 0xD800) * 0x400 + (low - 0xDC00))

/-- The character of an escape of two characters. -/
def simpleEscape? : Char → Option Char
  | '"' => some '"'
  | '\\' => some '\\'
  | '/' => some '/'
  | 'b' => some '\x08'
  | 'f' => some '\x0c'
  | 'n' => some '\n'
  | 'r' => some '\r'
  | 't' => some '\t'
  | _ => none

/-- Content read so far, last character first. -/
inductive Gathered where
  | text (content : List Char)
  /-- The first unit of a pair has been read and its second one must be next. -/
  | half (content : List Char) (high : Nat)
  /-- The string is known to denote no text. -/
  | noText
  deriving DecidableEq, Repr

namespace Gathered

/-- The content with one more character. -/
def push (c : Char) : Gathered → Gathered
  | .text content => .text (c :: content)
  | _ => .noText

/-- The content with one more unit of an escape. -/
def pushUnit (n : Nat) : Gathered → Gathered
  | .text content =>
    if isHighUnit n then .half content n
    else if isLowUnit n then .noText
    else .text (Char.ofNat n :: content)
  | .half content high => if isLowUnit n then .text (ofPair high n :: content) else .noText
  | .noText => .noText

/-- The content as a string, if it denotes a text. -/
def toText? : Gathered → Option String
  | .text content => some (String.ofList content.reverse)
  | _ => none

end Gathered

/-- The rest of a string up to its closing quote, and what follows the quote. Nothing if the string
does not end, has a control character, or an escape that is none. -/
def readString (g : Gathered) : Source → Option (Option String × Source)
  | [] => none
  | none :: rest => readString .noText rest
  | some '"' :: rest => some (g.toText?, rest)
  | some '\\' :: some 'u' :: a :: b :: c :: d :: rest =>
    match hexUnit? a b c d with
    | none => none
    | some n => readString (g.pushUnit n) rest
  | some '\\' :: some e :: rest =>
    match simpleEscape? e with
    | none => none
    | some c => readString (g.push c) rest
  | some '\\' :: _ => none
  | some c :: rest => if c.toNat < 0x20 then none else readString (g.push c) rest

/-! ### Numbers -/

/-- The digits at the front, and the rest. -/
def takeDigits : Source → List Char × Source
  | some c :: rest =>
    if c.isDigit then
      let (digits, rest) := takeDigits rest
      (c :: digits, rest)
    else ([], some c :: rest)
  | rest => ([], rest)

/-- Digits before the point: a single zero, or digits that do not start with one. -/
def readWhole (src : Source) : Option (List Char × Source) :=
  match takeDigits src with
  | ([], _) => none
  | (['0'], rest) => some (['0'], rest)
  | ('0' :: _, _) => none
  | (digits, rest) => some (digits, rest)

/-- The point and the digits after it, if there is a point. -/
def readFraction : Source → Option (List Char × Source)
  | some '.' :: rest =>
    match takeDigits rest with
    | ([], _) => none
    | (digits, rest) => some (digits, rest)
  | rest => some ([], rest)

/-- The digits of an exponent with the sign in front of them. -/
def readPower (sign : Int) (src : Source) : Option (Option Int × Source) :=
  match takeDigits src with
  | ([], _) => none
  | (digits, rest) => some (some (sign * (Nat.ofDigitChars 10 digits 0 : Nat)), rest)

/-- The exponent, if there is one. -/
def readExponent : Source → Option (Option Int × Source)
  | some 'e' :: some '-' :: rest | some 'E' :: some '-' :: rest => readPower (-1) rest
  | some 'e' :: some '+' :: rest | some 'E' :: some '+' :: rest => readPower 1 rest
  | some 'e' :: rest | some 'E' :: rest => readPower 1 rest
  | rest => some (none, rest)

/-- A number after its sign. -/
def readMagnitude (negative : Bool) (src : Source) : Option (NumberLiteral × Source) := do
  let (whole, rest) ← readWhole src
  let (fraction, rest) ← readFraction rest
  let (exponent, rest) ← readExponent rest
  return (⟨negative, whole, fraction, exponent⟩, rest)

/-- A number. -/
def readNumber : Source → Option (NumberLiteral × Source)
  | some '-' :: rest => readMagnitude true rest
  | rest => readMagnitude false rest

/-! ### Values -/

/-- The source after a given word, if it starts with it. -/
def afterWord : List Char → Source → Option Source
  | [], src => some src
  | c :: word, some d :: src => if c = d then afterWord word src else none
  | _ :: _, _ => none

/-- A value that is a single word. -/
def readWord (word : String) (value : Json) (src : Source) : Json × Option Source :=
  match afterWord word.toList src with
  | some rest => (value, some rest)
  | none => (.broken, none)

mutual

/-- The value at the front of a source, and the source after it unless the text broke off. -/
def readValue : Nat → Source → Json × Option Source
  | 0, _ => (.broken, none)
  | bound + 1, src =>
    match skipGaps src with
    | some '"' :: rest =>
      match readString (.text []) rest with
      | some (content, rest) => (.string content, some rest)
      | none => (.broken, none)
    | some '[' :: rest =>
      match skipGaps rest with
      | some ']' :: rest => (.array [], some rest)
      | rest =>
        let (items, rest) := readItems bound rest
        (.array items, rest)
    | some '\x7b' :: rest =>
      match skipGaps rest with
      | some '\x7d' :: rest => (.object [], some rest)
      | rest =>
        let (members, rest) := readMembers bound rest
        (.object members, rest)
    | some 'n' :: rest => readWord "ull" .null rest
    | some 't' :: rest => readWord "rue" (.bool true) rest
    | some 'f' :: rest => readWord "alse" (.bool false) rest
    | rest =>
      match readNumber rest with
      | some (literal, rest) => (.number literal, some rest)
      | none => (.broken, none)

/-- The items of an array up to its closing bracket. -/
def readItems : Nat → Source → List Json × Option Source
  | 0, _ => ([.broken], none)
  | bound + 1, src =>
    match readValue bound src with
    | (item, none) => ([item], none)
    | (item, some rest) =>
      match skipGaps rest with
      | some ',' :: rest =>
        let (items, rest) := readItems bound rest
        (item :: items, rest)
      | some ']' :: rest => ([item], some rest)
      | _ => ([item, .broken], none)

/-- The members of an object up to its closing brace. -/
def readMembers : Nat → Source → List (Option String × Json) × Option Source
  | 0, _ => ([(none, .broken)], none)
  | bound + 1, src =>
    match skipGaps src with
    | some '"' :: rest =>
      match readString (.text []) rest with
      | none => ([(none, .broken)], none)
      | some (name, rest) =>
        match skipGaps rest with
        | some ':' :: rest =>
          match readValue bound rest with
          | (value, none) => ([(name, value)], none)
          | (value, some rest) =>
            match skipGaps rest with
            | some ',' :: rest =>
              let (members, rest) := readMembers bound rest
              ((name, value) :: members, rest)
            | some '\x7d' :: rest => ([(name, value)], some rest)
            | _ => ([(name, value), (none, .broken)], none)
        | _ => ([(name, .broken)], none)
    | _ => ([(none, .broken)], none)

end

/-- A text as a tree, and whether nothing but gaps follows the value. -/
structure Document where
  /-- The tree, up to the first mistake. -/
  value : Json
  /-- Whether nothing but gaps follows the value. -/
  ended : Bool
  deriving Repr

/-- Reads a source to its end. -/
def parse (src : Source) : Document :=
  match readValue (2 * src.length + 2) src with
  | (value, some rest) => ⟨value, (skipGaps rest).isEmpty⟩
  | (value, none) => ⟨value, false⟩

end ContributionRegistry.Json
