import ContributionRegistry.Text.Blank
import ContributionRegistry.Text.Digits
import ContributionRegistry.Web.SocketAddress

/-!
# Reading settings

Settings are texts under names; a name may be unset, and then a text of its own stands for it.
Reading stops at the first setting that cannot be used and names it, with the text it has and the
reason (`SettingsFault`).

Here are the ways a single setting is read: as it is (`textSetting`), as a list between commas
(`listSetting`), or with a reader that may refuse it (`setting`), such as those for numbers and for
addresses. Which settings a service has is in the modules of the services.
-/

namespace ContributionRegistry.Settings

/-- The texts of the settings that are set. -/
abbrev Variables : Type := String → Option String

/-- A setting that cannot be used. -/
structure SettingsFault where
  /-- The name of the setting. -/
  name : String
  /-- The text that it has. -/
  value : String
  /-- Why that cannot be used. -/
  reason : String
  deriving DecidableEq, Repr

/-- The wording of the fault. -/
def SettingsFault.message (f : SettingsFault) : String :=
  s!"Invalid {f.name}='{f.value}': {f.reason}"

/-- What reading a setting gives. -/
abbrev Reading (α : Type) : Type := Except SettingsFault α

/-- Reads a setting with `parse`, which gives a reason where it cannot. An unset one reads as
`fallback`. -/
def setting {α : Type} (vars : Variables) (name fallback : String)
    (parse : String → Except String α) : Reading α :=
  let value := (vars name).getD fallback
  match parse value with
  | .ok a => .ok a
  | .error reason => .error ⟨name, value, reason⟩

/-- A text, taken as it is. -/
def textSetting (vars : Variables) (name fallback : String) : String :=
  (vars name).getD fallback

/-- The parts of a text between commas. -/
def splitCommas (text : List Char) : List (List Char) :=
  match text with
  | [] => [[]]
  | c :: rest =>
    if c = ',' then [] :: splitCommas rest
    else match splitCommas rest with
      | [] => [[c]]
      | part :: parts => (c :: part) :: parts

/-- A list: the parts between commas without the blanks around them, but for the empty ones. -/
def listSetting (vars : Variables) (name fallback : String) : List String :=
  (((splitCommas (textSetting vars name fallback).toList).map Text.trim).filter
    fun part ↦ !part.isEmpty).map String.ofList

/-- Reads an unsigned number. -/
def parseNumber (largest : Nat) (text : String) : Except String Nat :=
  (Text.readNumber largest text).mapError Text.NumberFault.message

/-- Reads an address to listen on. -/
def parseAddress (text : String) : Except String Web.SocketAddress :=
  match Web.SocketAddress.parse? text with
  | some address => .ok address
  | none => .error "invalid socket address syntax"

/-- The largest number of 32 bits. -/
def largestWord : Nat := 4294967295

/-- The largest number of 64 bits. -/
def largestLong : Nat := 18446744073709551615

/-- ASCII letters in lower case, all else as it is. -/
def lowered (text : String) : String := String.ofList (text.toList.map Char.toLower)

end ContributionRegistry.Settings
