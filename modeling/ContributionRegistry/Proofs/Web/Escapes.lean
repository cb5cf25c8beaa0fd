import ContributionRegistry.Proofs.Text.Bytes
import ContributionRegistry.Web.Form

/-!
# Escapes read back

An escaped text stands for the text, if what is let stand is plain (`unescape_escape`): a plain
character is in ASCII and no percent sign, so nothing that is let stand begins an escape, and every
byte that is written as one is read back (`unescape_escapeByte`). Escaping is therefore injective
(`escape_injective`).

The same goes for forms, whose pairs are told apart because no name or value has a separator in it
(`Form.decode_encodePair`). A form has a plus for a blank, which is undone first.
-/

namespace ContributionRegistry.Web

open Text.Utf8 (byte encode encodeChar_of_lt encode_append encode_cons encode_of_forall_lt)

/-! ### One escape -/

theorem upperHex_lt : ∀ n < 16, (upperHex n).toNat < 0x80 := by decide

theorem hexValue?_upperHex : ∀ n < 16, hexValue? (byte (upperHex n)) = some (UInt8.ofNat n) := by
  decide

/-- Two digits are read as their byte. -/
theorem hexByte?_upperHex (b : UInt8) :
    hexByte? (byte (upperHex (b.toNat / 16))) (byte (upperHex (b.toNat % 16))) = some b := by
  have hb := b.toNat_lt
  rw [hexByte?, hexValue?_upperHex _ (by omega), hexValue?_upperHex _ (by omega)]
  refine congrArg some (UInt8.toNat_inj.1 ?_)
  rw [UInt8.toNat_add, UInt8.toNat_mul, Text.Utf8.toNat_ofNat (by omega),
    Text.Utf8.toNat_ofNat (by omega)]
  show (16 * (b.toNat / 16) % 256 + b.toNat % 16) % 256 = b.toNat
  omega

theorem encode_escapeByte (b : UInt8) : encode (escapeByte b) =
    [0x25, byte (upperHex (b.toNat / 16)), byte (upperHex (b.toNat % 16))] := by
  have hb := b.toNat_lt
  have hhigh := upperHex_lt (b.toNat / 16) (by omega)
  have hlow := upperHex_lt (b.toNat % 16) (by omega)
  rw [escapeByte, encode_of_forall_lt]
  · rfl
  · simp [hhigh, hlow]

/-- **A byte that is escaped is read back.** -/
theorem unescape_escapeByte (b : UInt8) (rest : List UInt8) :
    unescape (encode (escapeByte b) ++ rest) = b :: unescape rest := by
  rw [encode_escapeByte]
  show unescape (0x25 :: byte _ :: byte _ :: rest) = _
  rw [unescape, if_pos rfl, hexByte?_upperHex]

theorem unescape_escapeBytes (bytes rest : List UInt8) :
    unescape (encode (bytes.flatMap escapeByte) ++ rest) = bytes ++ unescape rest := by
  induction bytes with
  | nil => rfl
  | cons b bytes ih =>
    rw [List.flatMap_cons, encode_append, List.append_assoc, unescape_escapeByte, ih]
    rfl

/-- What is no percent sign stands for itself. -/
theorem unescape_cons {b : UInt8} (h : b ≠ 0x25) (rest : List UInt8) :
    unescape (b :: rest) = b :: unescape rest := by
  match rest with
  | [] => rfl
  | [_] => rfl
  | _ :: _ :: _ => rw [unescape, if_neg h]

/-! ### Texts -/

/-- Only characters in ASCII are let stand, and the percent sign is not. -/
structure KeepsPlain (keep : Char → Bool) : Prop where
  /-- What is let stand is in ASCII. -/
  ascii : ∀ c, keep c = true → c.toNat < 0x80
  /-- No percent sign is let stand. -/
  percent : keep '%' = false

section

variable {keep : Char → Bool}

/-- What holds of all plain characters in ASCII that are let stand holds of all that are. -/
theorem KeepsPlain.forall_keep (h : KeepsPlain keep) {P : Char → Prop}
    (hall : ∀ n < 0x80, keep (Char.ofNat n) = true → P (Char.ofNat n)) (c : Char)
    (hc : keep c = true) : P c :=
  Text.Utf8.forall_ascii (P := fun c ↦ keep c = true → P c) hall (h.ascii c hc) hc

theorem escape_cons (c : Char) (text : List Char) : escape keep (c :: text) =
    (if keep c then [c] else (String.utf8EncodeChar c).flatMap escapeByte) ++ escape keep text :=
  rfl

/-- An escaped text is read back, whatever follows. -/
theorem unescape_encode_escape (h : KeepsPlain keep) (text : List Char) (rest : List UInt8) :
    unescape (encode (escape keep text) ++ rest) = encode text ++ unescape rest := by
  induction text with
  | nil => rfl
  | cons c text ih =>
    rw [escape_cons, encode_append, List.append_assoc, encode_cons c text, List.append_assoc]
    by_cases hc : keep c = true
    · have hlt := h.ascii c hc
      have hne : byte c ≠ 0x25 := fun heq ↦ by
        rw [(Text.Utf8.byte_inj hlt (d := '%') (by decide)).1 heq, h.percent] at hc
        cases hc
      rw [if_pos hc, encode_cons, encodeChar_of_lt hlt]
      show unescape (byte c :: (encode (escape keep text) ++ rest)) = byte c :: _
      rw [unescape_cons hne, ih]
      rfl
    · rw [if_neg hc, unescape_escapeBytes, ih]

/-- **An escaped text stands for the text.** -/
theorem unescape_escape (h : KeepsPlain keep) (text : List Char) :
    unescape (encode (escape keep text)) = encode text := by
  have hall := unescape_encode_escape h text []
  rwa [List.append_nil, show unescape [] = [] from rfl, List.append_nil] at hall

/-- Escaping tells texts apart. -/
theorem escape_injective (h : KeepsPlain keep) {a b : List Char}
    (heq : escape keep a = escape keep b) : a = b :=
  Text.Utf8.encode_injective (by rw [← unescape_escape h a, heq, unescape_escape h])

/-- What is true of what is let stand, of the percent sign and of hexadecimal digits is true of an
escaped text. -/
theorem forall_mem_escape {P : Char → Prop} (hkeep : ∀ c, keep c = true → P c) (hmark : P '%')
    (hhex : ∀ n < 16, P (upperHex n)) (text : List Char) : ∀ c ∈ escape keep text, P c := by
  intro c hc
  obtain ⟨d, -, hc⟩ := List.mem_flatMap.1 hc
  split at hc
  · next hd =>
    rw [List.mem_singleton.1 hc]
    exact hkeep d hd
  · obtain ⟨b, -, hc⟩ := List.mem_flatMap.1 hc
    have hb := b.toNat_lt
    rcases List.mem_cons.1 hc with rfl | hc
    · exact hmark
    rcases List.mem_cons.1 hc with rfl | hc
    · exact hhex _ (by omega)
    · rw [List.mem_singleton.1 hc]
      exact hhex _ (by omega)

end

/-! ### Forms -/

theorem toNat_lt_of_isAlphanum {c : Char} (h : c.isAlphanum = true) : c.toNat < 0x80 := by
  change ((decide (65 ≤ c.val ∧ c.val ≤ 90) || (decide (97 ≤ c.val) && decide (c.val ≤ 122))) ||
    (decide (48 ≤ c.val) && decide (c.val ≤ 57))) = true at h
  simp only [Bool.or_eq_true, Bool.and_eq_true, decide_eq_true_eq, UInt32.le_iff_toNat_le] at h
  change ((65 ≤ c.toNat ∧ c.toNat ≤ 90) ∨ (97 ≤ c.toNat ∧ c.toNat ≤ 122)) ∨
    (48 ≤ c.toNat ∧ c.toNat ≤ 57) at h
  omega

namespace Form

/-- What is let stand in a form is plain. -/
theorem keepsPlain_standsForItself : KeepsPlain standsForItself where
  ascii c h := by
    simp only [standsForItself, Bool.or_eq_true, beq_iff_eq] at h
    rcases h with (((h | rfl) | rfl) | rfl) | rfl
    · exact toNat_lt_of_isAlphanum h
    all_goals decide
  percent := by decide

theorem forall_mem_escape_standsForItself {P : Char → Prop}
    (hkeep : ∀ n < 0x80, standsForItself (Char.ofNat n) = true → P (Char.ofNat n)) (hmark : P '%')
    (hhex : ∀ n < 16, P (upperHex n)) (text : List Char) :
    ∀ c ∈ escape standsForItself text, P c :=
  forall_mem_escape (keepsPlain_standsForItself.forall_keep hkeep) hmark hhex text

theorem encodeText_cons (c : Char) (text : List Char) : encodeText (c :: text) =
    (if c = ' ' then ['+'] else escape standsForItself [c]) ++ encodeText text :=
  rfl

/-- What is true of what stands for itself, of plus and percent signs and of hexadecimal digits is
true of what a form has for a text. -/
theorem forall_mem_encodeText {P : Char → Prop}
    (hkeep : ∀ n < 0x80, standsForItself (Char.ofNat n) = true → P (Char.ofNat n)) (hplus : P '+')
    (hmark : P '%') (hhex : ∀ n < 16, P (upperHex n)) (text : List Char) :
    ∀ c ∈ encodeText text, P c := by
  intro c hc
  obtain ⟨d, -, hc⟩ := List.mem_flatMap.1 hc
  split at hc
  · rw [List.mem_singleton.1 hc]
    exact hplus
  · exact forall_mem_escape_standsForItself hkeep hmark hhex [d] c hc

/-- A plus sign as the space that it stands for. -/
def plusAsSpace (b : UInt8) : UInt8 := if b = 0x2B then 0x20 else b

/-- What was escaped has no plus sign of its own. -/
theorem map_plusAsSpace_escape (text : List Char) :
    (encode (escape standsForItself text)).map plusAsSpace =
      encode (escape standsForItself text) := by
  have hchars := forall_mem_escape_standsForItself (P := fun c ↦ c.toNat < 0x80 ∧ c ≠ '+')
    (by decide +kernel) (by decide) (by decide) text
  rw [encode_of_forall_lt fun c hc ↦ (hchars c hc).1, List.map_map]
  refine List.map_congr_left fun c hc ↦ ?_
  have hne : byte c ≠ 0x2B := fun heq ↦ (hchars c hc).2
    ((Text.Utf8.byte_inj (hchars c hc).1 (d := '+') (by decide)).1 heq)
  exact if_neg hne

/-- **What a form has for a name or a value stands for it.** -/
theorem decodeText_encodeText (text : List Char) :
    decodeText (encode (encodeText text)) = String.ofList text := by
  have hbytes : unescape ((encode (encodeText text)).map plusAsSpace) = encode text := by
    induction text with
    | nil => rfl
    | cons c text ih =>
      rw [encodeText_cons, encode_append, List.map_append, encode_cons]
      split
      · next hc =>
        subst hc
        show unescape (0x20 :: (encode (encodeText text)).map plusAsSpace) = [0x20] ++ encode text
        rw [unescape_cons (by decide), ih]
        rfl
      · rw [map_plusAsSpace_escape, unescape_encode_escape keepsPlain_standsForItself, ih]
        simp [encode_cons]
  show String.ofList (Text.Utf8.decodeLossy
    (unescape ((encode (encodeText text)).map plusAsSpace))) = _
  rw [hbytes, Text.Utf8.decodeLossy_encode]

/-! ### Separators -/

theorem splitOn_of_not_mem {mark : UInt8} {bytes : List UInt8} (h : mark ∉ bytes) :
    splitOn mark bytes = [bytes] := by
  induction bytes with
  | nil => rfl
  | cons b bytes ih =>
    rw [splitOn, if_neg fun hb : b = mark ↦ h (hb ▸ List.mem_cons_self),
      ih fun hmem ↦ h (List.mem_cons_of_mem b hmem)]

theorem takeWhile_ne_append {mark : UInt8} {bytes : List UInt8} (h : mark ∉ bytes)
    (rest : List UInt8) : (bytes ++ mark :: rest).takeWhile (· ≠ mark) = bytes := by
  have hall : ∀ b ∈ bytes, decide (b ≠ mark) = true :=
    fun b hb ↦ decide_eq_true fun heq ↦ h (heq ▸ hb)
  rw [List.takeWhile_append_of_pos hall, List.takeWhile_cons_of_neg (by simp), List.append_nil]

theorem dropWhile_ne_append {mark : UInt8} {bytes : List UInt8} (h : mark ∉ bytes)
    (rest : List UInt8) : (bytes ++ mark :: rest).dropWhile (· ≠ mark) = mark :: rest := by
  have hall : ∀ b ∈ bytes, decide (b ≠ mark) = true :=
    fun b hb ↦ decide_eq_true fun heq ↦ h (heq ▸ hb)
  rw [List.dropWhile_append_of_pos hall, List.dropWhile_cons_of_neg (by simp)]

/-- The bytes of a name or value have none of the separators. -/
theorem not_mem_encode_encodeText {mark : Char} (hmark : mark = '&' ∨ mark = '=')
    (text : List Char) : byte mark ∉ encode (encodeText text) := by
  have hchars := forall_mem_encodeText (P := fun c ↦ c.toNat < 0x80 ∧ c ≠ '&' ∧ c ≠ '=')
    (by decide +kernel) (by decide) (by decide) (by decide) text
  have hascii : mark.toNat < 0x80 := by rcases hmark with rfl | rfl <;> decide
  rw [encode_of_forall_lt fun c hc ↦ (hchars c hc).1, List.mem_map]
  rintro ⟨c, hc, heq⟩
  obtain ⟨hlt, hand, hequals⟩ := hchars c hc
  have hc := (Text.Utf8.byte_inj hlt hascii).1 heq
  rcases hmark with hmark | hmark
  · exact hand (hc.trans hmark)
  · exact hequals (hc.trans hmark)

/-- **A pair that was written as a form is read as this pair**, and as nothing else. -/
theorem decode_encodePair (name value : List Char) :
    decode (encode (encodePair name value)) = [(String.ofList name, String.ofList value)] := by
  have hbytes : encode (encodePair name value) =
      encode (encodeText name) ++ 0x3D :: encode (encodeText value) := encode_append ..
  have hequals : (0x3D : UInt8) ∉ encode (encodeText name) :=
    not_mem_encode_encodeText (.inr rfl) name
  have hand : (0x26 : UInt8) ∉ encode (encodeText name) ++ 0x3D :: encode (encodeText value) := by
    rw [List.mem_append, List.mem_cons]
    rintro (hmem | hmem | hmem)
    · exact not_mem_encode_encodeText (.inl rfl) name hmem
    · exact absurd hmem (by decide)
    · exact not_mem_encode_encodeText (.inl rfl) value hmem
  rw [hbytes, decode, splitOn_of_not_mem hand]
  have hnotempty : (encode (encodeText name) ++ 0x3D :: encode (encodeText value)).isEmpty =
      false := by simp
  rw [List.filter_cons_of_pos (by rw [hnotempty]; rfl), List.filter_nil, List.map_singleton,
    decodePair, takeWhile_ne_append hequals, dropWhile_ne_append hequals, decodeText_encodeText]
  rw [show (0x3D :: encode (encodeText value)).drop 1 = encode (encodeText value) from rfl,
    decodeText_encodeText]

end Form

end ContributionRegistry.Web
