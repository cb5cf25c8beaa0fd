import ContributionRegistry.Text.Utf8

/-!
# Percent escapes

A byte written as a percent sign and two hexadecimal digits. Which characters of a text are escaped
is for the caller to say (`escape`); an escaped character becomes the escapes of its UTF-8 bytes. In
reading, a percent sign that is not followed by two hexadecimal digits stands for itself
(`unescape`).

Escaping can be undone where the percent sign itself is escaped. Segments of paths and values of
queries are escaped so, the other parts of a URL are not.
-/

namespace ContributionRegistry.Web

/-- A hexadecimal digit, in upper case. -/
def upperHex (n : Nat) : Char := (Nat.digitChar n).toUpper

/-- The escape of a byte. -/
def escapeByte (b : UInt8) : List Char := ['%', upperHex (b.toNat / 16), upperHex (b.toNat % 16)]

/-- A text with every character escaped that `keep` does not let stand. -/
def escape (keep : Char → Bool) (text : List Char) : List Char :=
  text.flatMap fun c ↦ if keep c then [c] else (String.utf8EncodeChar c).flatMap escapeByte

/-- The value of a hexadecimal digit. -/
def hexValue? (b : UInt8) : Option UInt8 :=
  if 0x30 ≤ b && b ≤ 0x39 then some (b - 0x30)
  else if 0x41 ≤ b && b ≤ 0x46 then some (b - 0x41 + 10)
  else if 0x61 ≤ b && b ≤ 0x66 then some (b - 0x61 + 10)
  else none

/-- The byte of two hexadecimal digits. -/
def hexByte? (high low : UInt8) : Option UInt8 := do
  return 16 * (← hexValue? high) + (← hexValue? low)

/-- The bytes that a text with escapes stands for. -/
def unescape : List UInt8 → List UInt8
  | [] => []
  | [a] => [a]
  | [a, b] => [a, b]
  | a :: b :: c :: rest =>
    match if a = 0x25 then hexByte? b c else none with
    | some byte => byte :: unescape rest
    | none => a :: unescape (b :: c :: rest)

/-! ### Small facts -/

/-- There is nothing to escape in the empty text. -/
theorem escape_nil (keep : Char → Bool) : escape keep [] = [] := rfl

/-- Texts are escaped character by character. -/
theorem escape_append (keep : Char → Bool) (a b : List Char) :
    escape keep (a ++ b) = escape keep a ++ escape keep b :=
  List.flatMap_append

/-- A text of characters that stand for themselves is left as it is. -/
theorem escape_of_forall_keep {keep : Char → Bool} {text : List Char}
    (h : ∀ c ∈ text, keep c = true) : escape keep text = text := by
  induction text with
  | nil => rfl
  | cons c rest ih =>
    have hc := h c (by simp)
    have hrest := ih fun d hd ↦ h d (by simp [hd])
    simp only [escape] at hrest
    simp [escape, hc, hrest]

end ContributionRegistry.Web
