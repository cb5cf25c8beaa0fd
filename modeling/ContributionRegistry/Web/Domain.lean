import ContributionRegistry.Web.Domain.Direction
import ContributionRegistry.Web.Domain.Joining
import ContributionRegistry.Web.Domain.Mapping
import ContributionRegistry.Web.Punycode

/-!
# Names of hosts

A name of a host is made of labels with points between them. Names are told apart by their ASCII
forms, so that two spellings are the same name if they have the same one. On the way to it
(`ascii?`, after UTS #46) every character becomes what names have in its place, the name is
composed, labels that are already encoded are decoded, and what has no place in a name is refused.

A name in ASCII without an encoded label is only brought to lower case. Which characters of ASCII a
name may have is not decided here.
-/

namespace ContributionRegistry.Web.Domain

/-- Whether a text is in ASCII. -/
def isAscii (text : List Char) : Bool := text.all fun c ↦ c.toNat < 128

/-- The labels of a name. -/
def labels (name : List Char) : List (List Char) := Text.pieces (· = '.') name

/-- The code of an encoded label. -/
def code? : List Char → Option (List Char)
  | 'x' :: 'n' :: '-' :: '-' :: code => some code
  | _ => none

/-- The length of the longest code that is read. -/
def longestCode : Nat := 2000

/-- The length of the longest label beyond ASCII that is written. -/
def longestLabel : Nat := 1000

/-- What an encoded label stands for. It has to be something that needs the code, and a label as it
is after mapping and composition. -/
def decoded? (code : List Char) : Option (List Char) :=
  if longestCode < code.length ∨ ¬ isAscii code then none
  else (Punycode.decode? code).filter fun label ↦
    !isAscii label && label.all isStable && Text.Composition.composed label == label

/-- Whether a label beyond ASCII may stand in a name: it does not begin with a mark, its joiners are
where they may be, and it is not too long. -/
def isSound (label : List Char) : Bool :=
  !label.head?.any Text.isMark && joinersFit [] label &&
    (isAscii label || label.length ≤ longestLabel)

/-- A label in characters, if it may stand in a name. -/
def plain? (label : List Char) : Option (List Char) :=
  (match code? label with
    | some code => decoded? code
    | none => some label).filter isSound

/-- The ASCII form of a name. -/
def ascii? (name : List Char) : Option (List Char) := do
  let lower := name.map Char.toLower
  if isAscii lower && !(labels lower).any fun label ↦ (code? label).isSome then return lower
  else
    let mapped ← name.mapM mapped?
    let plain ← (labels (Text.Composition.composed mapped.flatten)).mapM plain?
    if isShowable plain then return ['.'].intercalate (plain.map Punycode.label) else none

end ContributionRegistry.Web.Domain
