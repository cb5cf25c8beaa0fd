import ContributionRegistry.Json.Decoding
import ContributionRegistry.Json.Writer

/-!
# Reading back what was written

The text that `Json.write` makes of a tree is read by `Json.parse` as that tree, to the end of the
text. This holds of **plain** trees: nothing in them is broken, their strings and names denote
texts, and they have no numbers. Records are written as plain trees, amounts included, so for them
decoding a text is decoding a tree (`decodeText_render`).

A string is read back character by character: what `escapeChar` makes of a character, be it the
character itself, an escape of two characters or a unit of four digits, adds that character to what
has been gathered (`readString_escapeChar`).

Trees are read back by recursion on the tree. The reader's bound is no obstacle: the length of a
value's text is enough for the value (`readValue_write`), and `parse` allows more than that.
-/

namespace ContributionRegistry.Json

/-! ### Sources -/

@[simp] theorem Source.ofText_nil : Source.ofText [] = [] := rfl

@[simp] theorem Source.ofText_cons (c : Char) (text : List Char) :
    Source.ofText (c :: text) = some c :: Source.ofText text := rfl

@[simp] theorem Source.ofText_append (s t : List Char) :
    Source.ofText (s ++ t) = Source.ofText s ++ Source.ofText t := List.map_append

theorem length_ofText (text : List Char) : (Source.ofText text).length = text.length :=
  List.length_map some

theorem skipGaps_cons {c : Char} (h : isGap (some c) = false) (rest : Source) :
    skipGaps (some c :: rest) = some c :: rest := by
  simp [skipGaps, h]

/-! ### Strings -/

/-- An escape of two characters adds one. -/
theorem readString_escape {c e : Char} (h : simpleEscape? e = some c) (g : Gathered)
    (rest : Source) :
    readString g (some '\\' :: some e :: rest) = readString (g.push c) rest := by
  rw [readString, h]
  rintro - - - - - - rfl
  simp [simpleEscape?] at h

/-- A character that needs no escape adds itself. -/
theorem readString_plain {c : Char} (hq : c ≠ '"') (hb : c ≠ '\\') (hc : 0x20 ≤ c.toNat)
    (g : Gathered) (rest : Source) :
    readString g (some c :: rest) = readString (g.push c) rest := by
  rw [readString, if_neg (by omega)]
  · exact hq
  · exact fun _ _ _ _ _ _ ↦ hb
  · exact fun _ _ _ ↦ hb
  · exact hb

/-- The digits of a control character are read as its number. -/
theorem hexUnit?_hexChar {n : Nat} (h : n < 32) :
    hexUnit? (some '0') (some '0') (some (hexChar (n / 16))) (some (hexChar (n % 16))) =
      some n := by
  decide +revert

/-- A control character is read from its four digits. -/
theorem readString_unit {c : Char} (hc : c.toNat < 0x20) (content : List Char) (rest : Source) :
    readString (.text content) (some '\\' :: some 'u' :: some '0' :: some '0' ::
      some (hexChar (c.toNat / 16)) :: some (hexChar (c.toNat % 16)) :: rest) =
      readString (.text (c :: content)) rest := by
  have hhigh : isHighUnit c.toNat = false := by simp [isHighUnit]; omega
  have hlow : isLowUnit c.toNat = false := by simp [isLowUnit]; omega
  rw [readString, hexUnit?_hexChar (by omega)]
  simp [Gathered.pushUnit, hhigh, hlow]

/-- What stands for a character in a string is read as that character. -/
theorem readString_escapeChar (c : Char) (content : List Char) (rest : Source) :
    readString (.text content) (Source.ofText (escapeChar c) ++ rest) =
      readString (.text (c :: content)) rest := by
  unfold escapeChar
  -- one branch for each way to write a character; the last is that of the remaining controls
  split
  · subst c; exact readString_escape rfl _ _
  split
  · subst c; exact readString_escape rfl _ _
  split
  · next hq hb hc => exact readString_plain hq hb hc _ _
  split
  · subst c; exact readString_escape rfl _ _
  split
  · subst c; exact readString_escape rfl _ _
  split
  · subst c; exact readString_escape rfl _ _
  split
  · subst c; exact readString_escape rfl _ _
  split
  · subst c; exact readString_escape rfl _ _
  · exact readString_unit (by omega) _ _

/-- A text is read from its escaped characters, one by one. -/
theorem readString_flatMap_escapeChar (text content : List Char) (rest : Source) :
    readString (.text content) (Source.ofText (text.flatMap escapeChar) ++ rest) =
      readString (.text (text.reverse ++ content)) rest := by
  induction text generalizing content with
  | nil => rfl
  | cons c text ih =>
    rw [List.flatMap_cons, Source.ofText_append, List.append_assoc, readString_escapeChar, ih]
    simp

/-- A written string is read to its closing quote, as the text it was written for. -/
theorem readString_writeString (text : List Char) (rest : Source) :
    readString (.text []) (Source.ofText (text.flatMap escapeChar ++ ['"']) ++ rest) =
      some (some (String.ofList text), rest) := by
  rw [Source.ofText_append, List.append_assoc, readString_flatMap_escapeChar]
  show readString _ (some '"' :: rest) = _
  rw [readString]
  simp [Gathered.toText?]

/-! ### Plain trees -/

mutual

/-- Whether a tree is plain: nothing in it is broken or a number, and its strings denote texts. -/
def isPlain : Json → Bool
  | .null | .bool _ => true
  | .string content => content.isSome
  | .array items => allPlain items
  | .object members => membersPlain members
  | .number _ | .broken => false

/-- `isPlain` of every item. -/
def allPlain : List Json → Bool
  | [] => true
  | item :: rest => isPlain item && allPlain rest

/-- Every member has a name and a plain value. -/
def membersPlain : List (Option String × Json) → Bool
  | [] => true
  | (name, value) :: rest => name.isSome && isPlain value && membersPlain rest

end

/-- An array of plain trees is plain. -/
theorem isPlain_array_map {α : Type} {f : α → Json} (h : ∀ a, (f a).isPlain = true)
    (items : List α) : (Json.array (items.map f)).isPlain = true := by
  rw [isPlain]
  induction items with
  | nil => rfl
  | cons a items ih => rw [List.map_cons, allPlain, h, ih, Bool.and_self]

/-- The text of a plain tree starts with neither a gap nor a closing bracket. -/
theorem write_eq_cons {v : Json} (h : v.isPlain = true) :
    ∃ c text, write v = c :: text ∧ isGap (some c) = false ∧ c ≠ ']' := by
  cases v with
  | null => exact ⟨'n', _, by rw [write]; rfl, rfl, by decide⟩
  | bool b => cases b with
    | false => exact ⟨'f', _, by rw [write]; rfl, rfl, by decide⟩
    | true => exact ⟨'t', _, by rw [write]; rfl, rfl, by decide⟩
  | string content => exact ⟨'"', _, by rw [write, writeString]; rfl, rfl, by decide⟩
  | array items => exact ⟨'[', _, by rw [write]; rfl, rfl, by decide⟩
  | object members => exact ⟨'\x7b', _, by rw [write]; rfl, rfl, by decide⟩
  | number _ => simp [isPlain] at h
  | broken => simp [isPlain] at h

theorem length_write_pos {v : Json} (h : v.isPlain = true) : 0 < (write v).length := by
  obtain ⟨c, text, hw, -⟩ := write_eq_cons h
  rw [hw]
  exact Nat.succ_pos _

/-! ### One bracket, one separator -/

/-- A string is read to its closing mark. -/
theorem readValue_string (content : List Char) (bound : Nat) (rest : Source) :
    readValue (bound + 1) (Source.ofText (writeString content) ++ rest) =
      (.string (some (String.ofList content)), some rest) := by
  show readValue (bound + 1) (some '"' :: (Source.ofText (_ ++ ['"']) ++ rest)) = _
  rw [readValue, skipGaps_cons rfl]
  simp only [readString_writeString]

/-- An array is read from its items. -/
theorem readValue_array {c : Char} {bound : Nat} {text : Source} {items : List Json}
    {rest : Option Source} (hgap : isGap (some c) = false) (hc : c ≠ ']')
    (h : readItems bound (some c :: text) = (items, rest)) :
    readValue (bound + 1) (some '[' :: some c :: text) = (.array items, rest) := by
  rw [readValue, skipGaps_cons rfl]
  simp [skipGaps_cons hgap, hc, h]

/-- An object is read from its members. -/
theorem readValue_object {bound : Nat} {text : Source} {members : List (Option String × Json)}
    {rest : Option Source} (h : readMembers bound (some '"' :: text) = (members, rest)) :
    readValue (bound + 1) (some '\x7b' :: some '"' :: text) = (.object members, rest) := by
  rw [readValue, skipGaps_cons rfl]
  simp [skipGaps_cons (c := '"') rfl, h]

theorem readItems_last {bound : Nat} {src rest : Source} {item : Json}
    (h : readValue bound src = (item, some (some ']' :: rest))) :
    readItems (bound + 1) src = ([item], some rest) := by
  rw [readItems, h]
  rfl

theorem readItems_comma {bound : Nat} {src after : Source} {item : Json} {items : List Json}
    {rest : Option Source} (h : readValue bound src = (item, some (some ',' :: after)))
    (hrest : readItems bound after = (items, rest)) :
    readItems (bound + 1) src = (item :: items, rest) := by
  rw [readItems, h]
  simp [skipGaps_cons (c := ',') rfl, hrest]

theorem readMembers_last {bound : Nat} {name : List Char} {src rest : Source} {value : Json}
    (h : readValue bound src = (value, some (some '\x7d' :: rest))) :
    readMembers (bound + 1) (Source.ofText (writeString name) ++ some ':' :: src) =
      ([(some (String.ofList name), value)], some rest) := by
  show readMembers (bound + 1) (some '"' :: (Source.ofText (_ ++ ['"']) ++ _)) = _
  rw [readMembers, skipGaps_cons rfl]
  simp only [readString_writeString, skipGaps_cons (c := ':') rfl, h,
    skipGaps_cons (c := '\x7d') rfl]

theorem readMembers_comma {bound : Nat} (name : List Char) {src after : Source} {value : Json}
    {members : List (Option String × Json)} {rest : Option Source}
    (h : readValue bound src = (value, some (some ',' :: after)))
    (hrest : readMembers bound after = (members, rest)) :
    readMembers (bound + 1) (Source.ofText (writeString name) ++ some ':' :: src) =
      ((some (String.ofList name), value) :: members, rest) := by
  show readMembers (bound + 1) (some '"' :: (Source.ofText (_ ++ ['"']) ++ _)) = _
  rw [readMembers, skipGaps_cons rfl]
  simp only [readString_writeString, skipGaps_cons (c := ':') rfl, h,
    skipGaps_cons (c := ',') rfl, hrest]

/-! ### Whole trees -/

theorem writeItems_cons_cons (item next : Json) (items : List Json) :
    writeItems (item :: next :: items) = write item ++ ',' :: writeItems (next :: items) := by
  rw [writeItems]
  simp

theorem writeMembers_cons_cons (name : Option String) (value : Json)
    (next : Option String × Json) (members : List (Option String × Json)) :
    writeMembers ((name, value) :: next :: members) =
      writeString (name.getD "").toList ++ ':' :: write value ++ ',' ::
        writeMembers (next :: members) := by
  rw [writeMembers]
  simp

/-- Items start with neither a gap nor a closing bracket. -/
theorem writeItems_eq_cons {item : Json} (h : item.isPlain = true) (items : List Json) :
    ∃ c text, writeItems (item :: items) = c :: text ∧ isGap (some c) = false ∧ c ≠ ']' := by
  obtain ⟨c, text, hw, hc⟩ := write_eq_cons h
  cases items with
  | nil => exact ⟨c, text, by rw [writeItems, hw], hc⟩
  | cons next items => exact ⟨c, _, by rw [writeItems_cons_cons, hw, List.cons_append], hc⟩

theorem writeMembers_eq_cons (m : Option String × Json) (ms : List (Option String × Json)) :
    ∃ text, writeMembers (m :: ms) = '"' :: text := by
  cases ms with
  | nil => exact ⟨_, by rw [writeMembers, writeString]; rfl⟩
  | cons next ms => exact ⟨_, by rw [writeMembers_cons_cons, writeString]; rfl⟩

mutual

/-- The text of a plain tree is read as that tree, whatever follows it. -/
theorem readValue_write : ∀ (v : Json) (bound : Nat) (rest : Source), v.isPlain = true →
    (write v).length ≤ bound →
      readValue bound (Source.ofText (write v) ++ rest) = (v, some rest)
  | v, 0, _, h, hb => absurd (length_write_pos h) (by omega)
  | .null, bound + 1, rest, _, _ => by
    rw [write]
    show readValue _ (some 'n' :: _) = _
    rw [readValue, skipGaps_cons rfl]
    rfl
  | .bool b, bound + 1, rest, _, _ => by
    cases b with
    | false =>
      rw [write]
      show readValue _ (some 'f' :: _) = _
      rw [readValue, skipGaps_cons rfl]
      rfl
    | true =>
      rw [write]
      show readValue _ (some 't' :: _) = _
      rw [readValue, skipGaps_cons rfl]
      rfl
  | .string none, _, _, h, _ => by simp [isPlain] at h
  | .string (some content), bound + 1, rest, _, _ => by
    rw [write, Option.getD_some, readValue_string, String.ofList_toList]
  | .array [], bound + 1, rest, _, _ => by
    rw [write, writeItems]
    show readValue _ (some '[' :: some ']' :: _) = _
    rw [readValue, skipGaps_cons rfl]
    rfl
  | .array (item :: items), bound + 1, rest, h, hb => by
    have hitems := readItems_write item items bound rest h (by simpa [write] using hb)
    -- the reader looks at the first character after the bracket: it does not close the list
    rw [isPlain, allPlain, Bool.and_eq_true] at h
    obtain ⟨c, text, hw, hgap, hc⟩ := writeItems_eq_cons h.1 items
    rw [hw, Source.ofText_cons, List.cons_append] at hitems
    have hread := readValue_array hgap hc hitems
    simpa [write, hw] using hread
  | .object [], bound + 1, rest, _, _ => by
    rw [write, writeMembers]
    show readValue _ (some '\x7b' :: some '\x7d' :: _) = _
    rw [readValue, skipGaps_cons rfl]
    rfl
  | .object (m :: ms), bound + 1, rest, h, hb => by
    have hmembers := readMembers_write m ms bound rest h (by simpa [write] using hb)
    obtain ⟨text, hw⟩ := writeMembers_eq_cons m ms
    rw [hw, Source.ofText_cons, List.cons_append] at hmembers
    have hread := readValue_object hmembers
    simpa [write, hw] using hread
  | .number _, _, _, h, _ | .broken, _, _, h, _ => by simp [isPlain] at h

/-- The texts of plain items are read as those items, up to the bracket after them. -/
theorem readItems_write : ∀ (item : Json) (items : List Json) (bound : Nat) (rest : Source),
    allPlain (item :: items) = true → (writeItems (item :: items)).length + 1 ≤ bound →
      readItems bound (Source.ofText (writeItems (item :: items)) ++ some ']' :: rest) =
        (item :: items, some rest)
  | _, _, 0, _, _, hb => by simp at hb
  | item, [], bound + 1, rest, h, hb => by
    rw [writeItems] at hb ⊢
    simp only [allPlain, Bool.and_true] at h
    exact readItems_last (readValue_write item bound _ h (by omega))
  | item, next :: items, bound + 1, rest, h, hb => by
    rw [writeItems_cons_cons] at hb ⊢
    rw [allPlain, Bool.and_eq_true] at h
    simp only [List.length_append, List.length_cons] at hb
    rw [Source.ofText_append, List.append_assoc]
    exact readItems_comma (readValue_write item bound _ h.1 (by omega))
      (readItems_write next items bound rest h.2 (by omega))

/-- The texts of plain members are read as those members, up to the brace after them. -/
theorem readMembers_write : ∀ (m : Option String × Json) (ms : List (Option String × Json))
    (bound : Nat) (rest : Source), membersPlain (m :: ms) = true →
    (writeMembers (m :: ms)).length + 1 ≤ bound →
      readMembers bound (Source.ofText (writeMembers (m :: ms)) ++ some '\x7d' :: rest) =
        (m :: ms, some rest)
  | _, _, 0, _, _, hb => by simp at hb
  | (none, _), _, _, _, h, _ => by simp [membersPlain] at h
  | (some name, value), [], bound + 1, rest, h, hb => by
    rw [writeMembers] at hb ⊢
    simp only [membersPlain, Option.isSome_some, Bool.true_and, Bool.and_true] at h
    simp only [List.length_append, List.length_cons] at hb
    rw [Source.ofText_append, List.append_assoc, Source.ofText_cons, List.cons_append,
      readMembers_last (readValue_write value bound _ h (by omega))]
    simp
  | (some name, value), next :: ms, bound + 1, rest, h, hb => by
    rw [writeMembers_cons_cons] at hb ⊢
    simp only [membersPlain, Option.isSome_some, Bool.true_and, Bool.and_eq_true] at h
    simp only [List.length_append, List.length_cons] at hb
    have hvalue := readValue_write value bound
      (some ',' :: (Source.ofText (writeMembers (next :: ms)) ++ some '\x7d' :: rest)) h.1
      (by omega)
    have hrest := readMembers_write next ms bound rest (by simpa [membersPlain] using h.2)
      (by omega)
    have hread := readMembers_comma name.toList hvalue hrest
    simpa using hread

end

/-- The text of a plain tree is a whole text with that tree. -/
theorem parse_write {v : Json} (h : v.isPlain = true) :
    parse (Source.ofText (write v)) = ⟨v, true⟩ := by
  -- `parse` reads with twice the length of the text, once the length is enough
  have hread := readValue_write v (2 * (Source.ofText (write v)).length + 2) [] h
    (by rw [length_ofText]; omega)
  rw [List.append_nil] at hread
  rw [parse, hread]
  rfl

/-- Decoding the text of a plain tree is decoding the tree. -/
theorem decodeText_render {α : Type} {v : Json} (h : v.isPlain = true)
    (decodeValue : Json → Decoded α) : decodeText decodeValue v.render = decodeValue v := by
  rw [decodeText, render, String.toList_ofList, decode, parse_write h]
  cases decodeValue v <;> rfl

end ContributionRegistry.Json
