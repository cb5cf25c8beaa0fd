import ContributionRegistry.Proofs.Text.Numerals
import ContributionRegistry.Web.SocketAddress
import Mathlib.Data.List.TakeWhile

/-!
# The texts of socket addresses

Which texts are socket addresses is said without reading them (`IsSocketAddress`): an IPv4 address
as it is written, or an IPv6 address in brackets and perhaps with a scope, and then a port. Reading
takes just these (`exists_parse?_iff`).

A reader takes as much as it can, so each equivalence for a reader says with what the rest may not
begin (`Ends`). In an IPv6 address it also looks for an IPv4 address where a group may stand, which
it never finds there by mistake: behind a group comes no point (`Ipv4.read_of_group`).
-/

namespace ContributionRegistry.Web

/-! ### Grammar -/

/-- A group: one to four hexadecimal digits. -/
structure IsGroup (digits : List Char) : Prop where
  /-- There are digits. -/
  ne_nil : digits ≠ []
  /-- There are four at most. -/
  length_le : digits.length ≤ 4
  /-- All are digits to base sixteen. -/
  hex : ∀ c ∈ digits, Text.isHexDigit c = true

/-- What comes before a part of an address: a colon, unless the part is the first one. -/
def lead (first : Bool) : List Char := if first then [] else [':']

/-- Parts of an address, as long as so many groups. The last part may be an IPv4 address, which is
as long as two groups. -/
inductive Parts : (first : Bool) → (count : Nat) → (quad : Bool) → List Char → Prop where
  | nil {first : Bool} : Parts first 0 false []
  | quad {first : Bool} (ip : Ipv4) : Parts first 2 true (lead first ++ ip.spell)
  | group {first quad : Bool} {count : Nat} {digits text : List Char} (h : IsGroup digits)
      (hrest : Parts false count quad text) :
      Parts first (count + 1) quad (lead first ++ (digits ++ text))

/-- An IPv6 address: eight groups, or fewer of them around two colons. -/
inductive IsIpv6 : List Char → Prop where
  | full {quad : Bool} {text : List Char} (h : Parts true 8 quad text) : IsIpv6 text
  | short {before after : Nat} {quad : Bool} {head tail : List Char}
      (hhead : Parts true before false head) (htail : Parts true after quad tail)
      (hle : before + after ≤ 7) : IsIpv6 (head ++ ':' :: ':' :: tail)

/-- A run of digits for a number of at most `largest`. -/
def IsCapped (largest : Nat) (digits : List Char) : Prop := ∃ n ≤ largest, Text.IsNumeral digits n

/-- An address with a port. -/
inductive IsSocketAddress : List Char → Prop where
  | v4 (ip : Ipv4) {port : List Char} (hport : IsCapped 65535 port) :
      IsSocketAddress (ip.spell ++ ':' :: port)
  | v6 {ip port : List Char} (hip : IsIpv6 ip) (hport : IsCapped 65535 port) :
      IsSocketAddress ('[' :: (ip ++ ']' :: ':' :: port))
  | v6Scoped {ip scope port : List Char} (hip : IsIpv6 ip) (hscope : IsCapped 4294967295 scope)
      (hport : IsCapped 65535 port) :
      IsSocketAddress ('[' :: (ip ++ '%' :: (scope ++ ']' :: ':' :: port)))

/-! ### Runs of digits -/

/-- What comes first, if anything, is not of the kind. -/
def Ends (kind : Char → Bool) (rest : List Char) : Prop := ∀ c ∈ rest.head?, kind c = false

theorem ends_nil (kind : Char → Bool) : Ends kind [] := nofun

theorem ends_cons {kind : Char → Bool} {c : Char} {rest : List Char} :
    Ends kind (c :: rest) ↔ kind c = false := by
  rw [Ends, List.head?_cons]
  exact ⟨fun h ↦ h c rfl, fun h _ hc ↦ Option.some.inj hc ▸ h⟩

section

variable {text digits rest : List Char} {kind : Char → Bool}

/-- Digits are taken up to what is none. -/
theorem spanDigits_eq_iff : spanDigits kind text = (digits, rest) ↔
    text = digits ++ rest ∧ (∀ c ∈ digits, kind c = true) ∧ Ends kind rest := by
  rw [spanDigits, Prod.mk.injEq]
  constructor
  · rintro ⟨rfl, rfl⟩
    refine ⟨List.takeWhile_append_dropWhile.symm, fun c ↦ List.mem_takeWhile_imp, fun c hc ↦ ?_⟩
    have h := List.head?_dropWhile_not kind text
    rwa [Option.mem_def.1 hc] at h
  · rintro ⟨rfl, hdigits, hends⟩
    rw [List.takeWhile_append_of_pos hdigits, List.dropWhile_append_of_pos hdigits]
    cases rest with
    | nil => exact ⟨List.append_nil _, rfl⟩
    | cons c rest =>
      have hc : ¬kind c = true := Bool.eq_false_iff.1 (ends_cons.1 hends)
      rw [List.takeWhile_cons_of_neg hc, List.dropWhile_cons_of_neg hc]
      exact ⟨List.append_nil _, rfl⟩

theorem ofRadix_ten (h : Text.allDigits digits = true) :
    Text.ofRadix 10 digits = Text.ofDigits digits := by
  have hstep (sofar : Nat) : digits.foldl (fun n c ↦ 10 * n + Text.digitValue c) sofar =
      Nat.ofDigitChars 10 digits sofar := by
    induction digits generalizing sofar with
    | nil => rfl
    | cons c digits ih =>
      rw [Text.allDigits, List.all_cons, Bool.and_eq_true] at h
      rw [List.foldl_cons, ih h.2, Nat.ofDigitChars_cons, Text.digitValue, if_pos h.1]
  exact hstep 0

/-- A capped number is read from its numerals. -/
theorem readCapped_eq_some_iff {largest n : Nat} :
    SocketAddress.readCapped largest text = some (n, rest) ↔
      ∃ digits, text = digits ++ rest ∧ Text.IsNumeral digits n ∧ n ≤ largest ∧
        Ends Char.isDigit rest := by
  constructor
  · intro h
    rcases hspan : spanDigits Char.isDigit text with ⟨digits, after⟩
    obtain ⟨htext, hdigits, hends⟩ := spanDigits_eq_iff.1 hspan
    have hall : Text.allDigits digits = true := List.all_eq_true.2 hdigits
    simp only [SocketAddress.readCapped, hspan, ofRadix_ten hall] at h
    split at h
    · cases h
    · next hfit =>
      rw [not_or, Nat.not_lt] at hfit
      cases h
      exact ⟨digits, htext, ⟨hfit.1, hall, rfl⟩, hfit.2, hends⟩
  · rintro ⟨digits, rfl, ⟨hne, hall, rfl⟩, hle, hends⟩
    have hspan := spanDigits_eq_iff.2 ⟨rfl, List.all_eq_true.1 hall, hends⟩
    simp only [SocketAddress.readCapped, hspan, ofRadix_ten hall]
    exact if_neg (not_or.2 ⟨hne, Nat.not_lt.2 hle⟩)

end

/-! ### IPv4 -/

namespace Ipv4

variable {text rest : List Char}

/-- An octet is read just where it is written. -/
theorem readOctet_eq_some_iff {a : UInt8} : readOctet text = some (a, rest) ↔
    text = Text.digitsOf a.toNat ++ rest ∧ Ends Char.isDigit rest := by
  constructor
  · intro h
    rcases hspan : spanDigits Char.isDigit text with ⟨digits, after⟩
    obtain ⟨htext, hdigits, hends⟩ := spanDigits_eq_iff.1 hspan
    have hall : Text.allDigits digits = true := List.all_eq_true.2 hdigits
    simp only [readOctet, hspan, ofRadix_ten hall] at h
    split at h
    · cases h
    · next hform =>
      split at h
      · cases h
      · next hvalue =>
        cases h
        -- no zero leads, so the digits are those that the number is written with
        rw [not_or, not_or] at hform
        obtain ⟨hne, -, hzeros⟩ := hform
        have hlead (hzero : digits.head? = some '0') : digits.length = 1 :=
          Nat.le_antisymm (Nat.not_lt.1 fun hlong ↦ hzeros ⟨hzero, hlong⟩)
            (List.length_pos_iff.2 hne)
        have hvalue' : (Text.ofDigits digits).toUInt8.toNat = Text.ofDigits digits :=
          Nat.mod_eq_of_lt (by omega)
        rw [hvalue', Text.digitsOf_ofDigits hall hne hlead]
        exact ⟨htext, hends⟩
  · rintro ⟨rfl, hends⟩
    have hall := Text.allDigits_digitsOf a.toNat
    have hlt : a.toNat < 256 := a.toNat_lt
    have hlength : (Text.digitsOf a.toNat).length ≤ 3 :=
      (Text.length_digitsOf_le_iff (by decide)).2 (Nat.lt_trans hlt (by decide))
    have hspan := spanDigits_eq_iff.2 ⟨rfl, List.all_eq_true.1 hall, hends⟩
    simp only [readOctet, hspan, ofRadix_ten hall, Text.ofDigits_digitsOf]
    rw [if_neg, if_neg (by omega)]
    · rw [Nat.toUInt8, UInt8.ofNat_toNat]
    · rintro (hnil | hlong | ⟨hzero, hlong⟩)
      · exact Text.digitsOf_ne_nil _ hnil
      · omega
      · rw [Text.zero_of_head_digitsOf hzero] at hlong
        exact absurd hlong (by decide)

theorem readNextOctet_eq_some_iff {a : UInt8} : readNextOctet text = some (a, rest) ↔
    text = '.' :: (Text.digitsOf a.toNat ++ rest) ∧ Ends Char.isDigit rest := by
  unfold readNextOctet
  split
  · rw [readOctet_eq_some_iff, List.cons.injEq, and_iff_right rfl]
  · next hpoint => exact iff_of_false nofun fun h ↦ hpoint _ h.1

/-- **An address is read just where it is written.** -/
theorem read_eq_some_iff {ip : Ipv4} : read text = some (ip, rest) ↔
    text = ip.spell ++ rest ∧ Ends Char.isDigit rest := by
  have hpoint (text : List Char) : Ends Char.isDigit ('.' :: text) := ends_cons.2 rfl
  simp only [read, Option.bind_eq_bind, Option.bind_eq_some_iff, Prod.exists,
    readOctet_eq_some_iff, readNextOctet_eq_some_iff, Option.pure_def, Option.some.injEq,
    Prod.mk.injEq]
  constructor
  · rintro ⟨a, _, ⟨rfl, -⟩, b, _, ⟨rfl, -⟩, c, _, ⟨rfl, -⟩, d, _, ⟨rfl, hends⟩, rfl, rfl⟩
    refine ⟨?_, hends⟩
    simp only [spell, List.append_assoc, List.cons_append]
  · rintro ⟨rfl, hends⟩
    refine ⟨ip.a, _, ⟨?_, hpoint _⟩, ip.b, _, ⟨rfl, hpoint _⟩, ip.c, _, ⟨rfl, hpoint _⟩, ip.d, _,
      ⟨rfl, hends⟩, rfl, rfl⟩
    simp only [spell, List.append_assoc, List.cons_append]

/-- Where no digit stands, there is no address. -/
theorem read_of_ends (h : Ends Char.isDigit text) : read text = none := by
  rcases hread : read text with _ | ⟨ip, rest⟩
  · rfl
  · obtain ⟨rfl, -⟩ := read_eq_some_iff.1 hread
    obtain ⟨c, digits, hdigits⟩ := List.exists_cons_of_ne_nil (Text.digitsOf_ne_nil ip.a.toNat)
    have hall := Text.allDigits_digitsOf ip.a.toNat
    rw [hdigits, Text.allDigits, List.all_cons, Bool.and_eq_true] at hall
    simp only [spell, hdigits, List.cons_append, ends_cons] at h
    rw [hall.1] at h
    cases h

/-- Behind a group comes no point, so there is no IPv4 address where a group stands. -/
theorem read_of_group {digits : List Char} (h : IsGroup digits) {c : Char}
    (hc : Text.isHexDigit c = false) (hpoint : c ≠ '.') :
    read (digits ++ c :: rest) = none := by
  rcases hread : read (digits ++ c :: rest) with _ | ⟨ip, after⟩
  · rfl
  · obtain ⟨htext, -⟩ := read_eq_some_iff.1 hread
    have hoctet : ∀ c ∈ Text.digitsOf ip.a.toNat, Text.isHexDigit c = true := fun c hmem ↦ by
      rw [Text.isHexDigit, List.all_eq_true.1 (Text.allDigits_digitsOf _) c hmem]
      rfl
    simp only [spell, List.append_assoc, List.cons_append] at htext
    -- both the group and the first number end where the hexadecimal digits end
    have hspan := (spanDigits_eq_iff.2 ⟨rfl, h.hex, ends_cons.2 hc⟩).symm.trans
      (spanDigits_eq_iff.2 ⟨htext, hoctet, ends_cons.2 rfl⟩)
    exact absurd (List.cons.inj (Prod.mk.inj hspan).2).1 hpoint

end Ipv4

/-! ### IPv6 -/

namespace Ipv6

variable {text rest : List Char} {first : Bool}

/-- A group is read from its digits. -/
theorem readGroup_eq_some_iff {g : Nat} : readGroup text = some (g, rest) ↔
    ∃ digits, text = digits ++ rest ∧ IsGroup digits ∧ Text.ofRadix 16 digits = g ∧
      Ends Text.isHexDigit rest := by
  constructor
  · intro h
    rcases hspan : spanDigits Text.isHexDigit text with ⟨digits, after⟩
    obtain ⟨htext, hdigits, hends⟩ := spanDigits_eq_iff.1 hspan
    simp only [readGroup, hspan] at h
    split at h
    · cases h
    · next hform =>
      rw [not_or, Nat.not_lt] at hform
      cases h
      exact ⟨digits, htext, ⟨hform.1, hform.2, hdigits⟩, rfl, hends⟩
  · rintro ⟨digits, rfl, ⟨hne, hlength, hhex⟩, rfl, hends⟩
    simp only [readGroup, spanDigits_eq_iff.2 ⟨rfl, hhex, hends⟩]
    exact if_neg (not_or.2 ⟨hne, Nat.not_lt.2 hlength⟩)

/-- What is read behind a colon, or at the front. -/
theorem afterColon_eq_some_iff {α : Type} {read : List Char → Option (α × List Char)} {a : α} :
    afterColon first read text = some (a, rest) ↔
      ∃ part, text = lead first ++ part ∧ read part = some (a, rest) := by
  unfold afterColon lead
  cases first with
  | true => exact ⟨fun h ↦ ⟨text, rfl, h⟩, fun ⟨_, htext, h⟩ ↦ htext ▸ h⟩
  | false =>
    rw [if_neg Bool.false_ne_true, if_neg Bool.false_ne_true]
    split
    · exact ⟨fun h ↦ ⟨_, rfl, h⟩, fun ⟨_, htext, h⟩ ↦ (List.cons.inj htext).2 ▸ h⟩
    · next hcolon => exact iff_of_false nofun fun ⟨_, htext, _⟩ ↦ hcolon _ htext

/-- What may follow the parts of an address: two colons, or the end of the address. -/
inductive Stops : List Char → Prop where
  | colons (rest : List Char) : Stops (':' :: ':' :: rest)
  | scope (rest : List Char) : Stops ('%' :: rest)
  | bracket (rest : List Char) : Stops (']' :: rest)

theorem readGroup_of_ends (h : Ends Text.isHexDigit text) : readGroup text = none := by
  rcases hread : readGroup text with _ | ⟨g, rest⟩
  · rfl
  · obtain ⟨digits, rfl, hgroup, -, -⟩ := readGroup_eq_some_iff.1 hread
    obtain ⟨c, digits, rfl⟩ := List.exists_cons_of_ne_nil hgroup.ne_nil
    rw [List.cons_append, ends_cons, hgroup.hex c List.mem_cons_self] at h
    cases h

theorem Stops.ends (h : Stops rest) : Ends Text.isHexDigit rest := by
  cases h <;> exact ends_cons.2 rfl

theorem ends_digits (h : Ends Text.isHexDigit rest) : Ends Char.isDigit rest := fun c hc ↦ by
  have hhex := h c hc
  rw [Text.isHexDigit, Bool.or_eq_false_iff, Bool.or_eq_false_iff] at hhex
  exact hhex.1.1

/-- Where the parts stop, no further part is read. -/
theorem Stops.afterColon_eq_none {α : Type} {read : List Char → Option (α × List Char)}
    (h : Stops rest) (hread : ∀ text, Ends Text.isHexDigit text → read text = none) :
    afterColon first read rest = none := by
  cases first with
  | true => exact hread rest h.ends
  | false =>
    cases h with
    | colons rest => exact hread _ (ends_cons.2 rfl)
    | scope rest => rfl
    | bracket rest => rfl

/-- Groups that are read are parts of an address. -/
theorem parts_of_readGroups {room : Nat} {groups : List Nat} {quad : Bool}
    (h : readGroups room first text = (groups, quad, rest)) :
    ∃ written, text = written ++ rest ∧ Parts first groups.length quad written ∧
      groups.length ≤ room := by
  induction room generalizing first text groups with
  | zero =>
    cases h
    exact ⟨[], rfl, .nil, Nat.le_refl _⟩
  | succ room ih =>
    rw [readGroups] at h
    split at h
    · next ip after hquad =>
      cases h
      split at hquad
      · next hroom =>
        obtain ⟨part, rfl, hread⟩ := afterColon_eq_some_iff.1 hquad
        obtain ⟨rfl, -⟩ := Ipv4.read_eq_some_iff.1 hread
        exact ⟨_, (List.append_assoc ..).symm, .quad ip, Nat.succ_le_succ hroom⟩
      · cases hquad
    · split at h
      · next g after hgroup =>
        obtain ⟨part, rfl, hread⟩ := afterColon_eq_some_iff.1 hgroup
        obtain ⟨digits, rfl, hdigits, -, -⟩ := readGroup_eq_some_iff.1 hread
        rcases hrest : readGroups room false after with ⟨groups', quad', rest'⟩
        rw [hrest] at h
        cases h
        obtain ⟨written, rfl, hparts, hle⟩ := ih hrest
        refine ⟨_, ?_, .group hdigits hparts, Nat.succ_le_succ hle⟩
        rw [List.append_assoc, List.append_assoc]
      · cases h
        exact ⟨[], rfl, .nil, Nat.zero_le _⟩

/-- What comes behind a group can be no part of it, and makes it no number of an IPv4 address. -/
theorem exists_cons_of_parts {count : Nat} {quad : Bool} (h : Parts false count quad text)
    (hstops : Stops rest) :
    ∃ c after, text ++ rest = c :: after ∧ Text.isHexDigit c = false ∧ c ≠ '.' := by
  cases h with
  | nil => cases hstops <;> exact ⟨_, _, rfl, rfl, by decide⟩
  | quad ip => exact ⟨':', _, rfl, rfl, by decide⟩
  | group _ _ => exact ⟨':', _, rfl, rfl, by decide⟩

/-- Parts of an address are read as groups. -/
theorem readGroups_of_parts {count room : Nat} {quad : Bool} (h : Parts first count quad text)
    (hroom : count ≤ room) (hstops : Stops rest) :
    ∃ groups, groups.length = count ∧
      readGroups room first (text ++ rest) = (groups, quad, rest) := by
  induction h generalizing room with
  | nil =>
    refine ⟨[], rfl, ?_⟩
    cases room with
    | zero => rfl
    | succ room =>
      rw [List.nil_append, readGroups,
        hstops.afterColon_eq_none fun _ hends ↦ Ipv4.read_of_ends (ends_digits hends),
        hstops.afterColon_eq_none fun _ ↦ readGroup_of_ends, ite_self]
  | quad ip =>
    obtain ⟨room, rfl⟩ := Nat.exists_eq_add_of_le' hroom
    refine ⟨[ip.a.toNat * 256 + ip.b.toNat, ip.c.toNat * 256 + ip.d.toNat], rfl, ?_⟩
    rw [readGroups, if_pos (Nat.le_add_left ..), afterColon_eq_some_iff.2 ⟨ip.spell ++ rest,
      List.append_assoc .., Ipv4.read_eq_some_iff.2 ⟨rfl, ends_digits hstops.ends⟩⟩]
  | @group first quad count digits text hdigits hparts ih =>
    obtain ⟨room, rfl⟩ := Nat.exists_eq_add_of_le' hroom
    obtain ⟨groups, hlength, hrest⟩ := ih (Nat.le_add_left count room)
    obtain ⟨c, after, hafter, hc, hpoint⟩ := exists_cons_of_parts hparts hstops
    have hassoc : lead first ++ (digits ++ text) ++ rest =
        lead first ++ (digits ++ c :: after) := by
      rw [← hafter, List.append_assoc, List.append_assoc]
    -- the reader looks for an IPv4 address first, and would find none here
    have hquad : afterColon first Ipv4.read (lead first ++ (digits ++ c :: after)) = none := by
      rcases hread : afterColon first Ipv4.read _ with _ | ⟨ip, rest'⟩
      · rfl
      · obtain ⟨part, hpart, hread⟩ := afterColon_eq_some_iff.1 hread
        rw [← List.append_cancel_left hpart, Ipv4.read_of_group hdigits hc hpoint] at hread
        cases hread
    have hgroup : afterColon first readGroup (lead first ++ (digits ++ c :: after)) =
        some (Text.ofRadix 16 digits, c :: after) :=
      afterColon_eq_some_iff.2
        ⟨_, rfl, readGroup_eq_some_iff.2 ⟨digits, rfl, hdigits, rfl, ends_cons.2 hc⟩⟩
    refine ⟨Text.ofRadix 16 digits :: groups, congrArg (· + 1) hlength, ?_⟩
    rw [hassoc, ← Nat.add_assoc, readGroups, hquad, ite_self, hgroup]
    simp only [← hafter, hrest]

/-- **What is read as an address is one.** -/
theorem isIpv6_of_read {ip : Ipv6} (h : read text = some (ip, rest)) :
    ∃ written, text = written ++ rest ∧ IsIpv6 written := by
  rcases hhead : readGroups 8 true text with ⟨head, quad, after⟩
  obtain ⟨written, rfl, hparts, hle⟩ := parts_of_readGroups hhead
  simp only [read, hhead] at h
  split at h
  · next hlength =>
    cases h
    exact ⟨written, rfl, .full (hlength ▸ hparts)⟩
  · next hlength =>
    split at h
    · cases h
    · next hquad =>
      rw [Bool.not_eq_true] at hquad
      split at h
      · next _ behind =>
        rcases htail : readGroups (7 - head.length) true behind with ⟨tail, quad', rest'⟩
        rw [htail] at h
        cases h
        obtain ⟨written', rfl, hparts', hle'⟩ := parts_of_readGroups htail
        refine ⟨_, ?_, .short (hquad ▸ hparts) hparts' (by omega)⟩
        rw [List.append_assoc, List.cons_append, List.cons_append]
      · cases h

/-- **An address is read as one.** -/
theorem exists_read_of_isIpv6 (h : IsIpv6 text) (hstops : Stops rest) :
    ∃ ip, read (text ++ rest) = some (ip, rest) := by
  cases h with
  | full hparts =>
    obtain ⟨groups, hlength, hread⟩ := readGroups_of_parts hparts (Nat.le_refl 8) hstops
    simp only [read, hread, if_pos hlength]
    exact ⟨_, rfl⟩
  | short hhead htail hle =>
    next before after quad head tail =>
    obtain ⟨groups, hlength, hread⟩ := readGroups_of_parts hhead (by omega : before ≤ 8)
      (.colons (tail ++ rest))
    obtain ⟨groups', -, hread'⟩ := readGroups_of_parts htail (by omega : after ≤ 7 - before) hstops
    rw [← hlength] at hread'
    rw [List.append_assoc, List.cons_append, List.cons_append]
    simp only [read, hread, hread', if_neg (by omega : ¬groups.length = 8), Bool.false_eq_true,
      if_false]
    exact ⟨_, rfl⟩

end Ipv6

/-! ### Socket addresses -/

namespace SocketAddress

variable {text rest : List Char}

theorem exists_readPort_iff : (∃ port, readPort text = some port) ↔
    ∃ digits, text = ':' :: digits ∧ IsCapped 65535 digits := by
  constructor
  · rintro ⟨port, h⟩
    unfold readPort at h
    split at h
    · split at h
      · next hread =>
        obtain ⟨digits, rfl, hdigits, hle, -⟩ := readCapped_eq_some_iff.1 hread
        exact ⟨_, rfl, port, Option.some.inj h ▸ hle, by
          rwa [List.append_nil, ← Option.some.inj h]⟩
      · cases h
    · cases h
  · rintro ⟨digits, rfl, n, hle, hdigits⟩
    have hread : readCapped 65535 digits = some (n, []) :=
      readCapped_eq_some_iff.2 ⟨digits, (List.append_nil _).symm, hdigits, hle, ends_nil _⟩
    exact ⟨n, by rw [readPort, hread]⟩

/-- A scope is a percent sign and a number, or nothing at all. -/
theorem exists_readScope_iff : (∃ scope, readScope text = (scope, ']' :: rest)) ↔
    text = ']' :: rest ∨
      ∃ digits, text = '%' :: (digits ++ ']' :: rest) ∧ IsCapped 4294967295 digits := by
  constructor
  · rintro ⟨scope, h⟩
    unfold readScope at h
    split at h
    · next after =>
      rcases hread : readCapped 4294967295 after with _ | ⟨n, rest'⟩ <;> rw [hread] at h
      · cases h
      · cases h
        obtain ⟨digits, rfl, hdigits, hle, -⟩ := readCapped_eq_some_iff.1 hread
        exact .inr ⟨digits, rfl, scope, hle, hdigits⟩
    · exact .inl (Prod.mk.inj h).2
  · rintro (rfl | ⟨digits, rfl, n, hle, hdigits⟩)
    · exact ⟨0, rfl⟩
    · have hread : readCapped 4294967295 (digits ++ ']' :: rest) = some (n, ']' :: rest) :=
        readCapped_eq_some_iff.2 ⟨digits, rfl, hdigits, hle, ends_cons.2 rfl⟩
      exact ⟨n, by rw [readScope, hread, Option.getD_some]⟩

theorem isSocketAddress_of_parseV6? {address : SocketAddress} (h : parseV6? text = some address) :
    IsSocketAddress ('[' :: text) := by
  obtain ⟨⟨ip, after⟩, hip, hafter⟩ := Option.bind_eq_some_iff.1 h
  obtain ⟨written, rfl, hwritten⟩ := Ipv6.isIpv6_of_read hip
  dsimp only at hafter
  split at hafter
  · next scope rest hscope =>
    obtain ⟨port, hport, -⟩ := Option.map_eq_some_iff.1 hafter
    obtain ⟨digits, rfl, hdigits⟩ := exists_readPort_iff.1 ⟨port, hport⟩
    rcases exists_readScope_iff.1 ⟨scope, hscope⟩ with rfl | ⟨mark, rfl, hmark⟩
    · exact .v6 hwritten hdigits
    · exact .v6Scoped hwritten hmark hdigits
  · cases hafter

theorem exists_parseV6? {ip after port : List Char} (hip : IsIpv6 ip) (hstops : Ipv6.Stops after)
    (hscope : ∃ scope, readScope after = (scope, ']' :: ':' :: port))
    (hport : IsCapped 65535 port) : ∃ address, parseV6? (ip ++ after) = some address := by
  obtain ⟨ip, hread⟩ := Ipv6.exists_read_of_isIpv6 hip hstops
  obtain ⟨scope, hscope⟩ := hscope
  obtain ⟨n, hport⟩ := exists_readPort_iff.2 ⟨port, rfl, hport⟩
  rw [parseV6?, Option.bind_eq_bind, hread, Option.bind_some]
  simp only [hscope, hport, Option.map_some]
  exact ⟨_, rfl⟩

/-- **Just the texts of socket addresses are read.** -/
theorem exists_parse?_iff (text : String) :
    (∃ address, parse? text = some address) ↔ IsSocketAddress text.toList := by
  constructor
  · rintro ⟨address, h⟩
    unfold parse? at h
    split at h
    · next htext =>
      rw [htext]
      exact isSocketAddress_of_parseV6? h
    · obtain ⟨⟨ip, after⟩, hip, h⟩ := Option.bind_eq_some_iff.1 h
      obtain ⟨htext, -⟩ := Ipv4.read_eq_some_iff.1 hip
      obtain ⟨port, hport, -⟩ := Option.map_eq_some_iff.1 h
      obtain ⟨digits, rfl, hdigits⟩ := exists_readPort_iff.1 ⟨port, hport⟩
      rw [htext]
      exact .v4 ip hdigits
  · intro h
    -- how the text begins says which kind it is: only an IPv6 address has a bracket in front
    rw [parse?]
    generalize text.toList = all at h
    cases h with
    | v4 ip hport =>
      next port =>
      obtain ⟨n, hport⟩ := exists_readPort_iff.2 ⟨port, rfl, hport⟩
      have hread : Ipv4.read (ip.spell ++ ':' :: port) = some (ip, ':' :: port) :=
        Ipv4.read_eq_some_iff.2 ⟨rfl, ends_cons.2 rfl⟩
      split
      · next htext =>
        rw [htext, Ipv4.read_of_ends (ends_cons.2 rfl)] at hread
        cases hread
      · simp only [hread, Option.bind_eq_bind, Option.bind_some, hport, Option.map_some]
        exact ⟨_, rfl⟩
    | v6 hip hport =>
      exact exists_parseV6? hip (.bracket _) (exists_readScope_iff.2 (.inl rfl)) hport
    | v6Scoped hip hscope hport =>
      exact exists_parseV6? hip (.scope _) (exists_readScope_iff.2 (.inr ⟨_, rfl, hscope⟩)) hport

end SocketAddress

end ContributionRegistry.Web
