import ContributionRegistry.Proofs.Amount.Numerals
import ContributionRegistry.Text.Utf8

/-!
# Texts that abandon their reader

Reading an amount cuts the fraction after two bytes, before it looks at a single character. A text
is *torn* by that if its first point is followed by a character that the second byte behind the
point belongs to and that ends later (`Torn`). Exactly the torn texts abandon their reader
(`parse_eq_abandoned_iff`): for all others there is an amount or a refusal (`read_or_refused`).

The argument follows the reader from the inside out. A fraction has no cut just if its first
character has more than two bytes, or the first has one and the second more than one
(`cutFraction_eq_none_iff`). The fraction of a trimmed text is what follows its first point
(`fraction_spec`), wherever a sign stands. So being torn is a matter of the text alone, and whether
the rest of it looks like a number has no part in it.
-/

namespace ContributionRegistry.Amount

/-- The number of bytes of a text. -/
def bytes (text : List Char) : ℕ := (Text.Utf8.encode text).length

@[simp] theorem bytes_nil : bytes [] = 0 := rfl

@[simp] theorem bytes_cons (c : Char) (text : List Char) :
    bytes (c :: text) = c.utf8Size + bytes text := by
  simp [bytes, Text.Utf8.encode]

/-- The second byte of the text is not the last one of a character. -/
def Split (text : List Char) : Prop :=
  ∃ front c rest, text = front ++ c :: rest ∧ bytes front < 2 ∧ 2 < bytes front + c.utf8Size

/-- Behind the first point of the text, blanks at its ends aside, the second byte is not the last
one of a character. -/
def Torn (raw : String) : Prop :=
  ∃ before after, Text.trim raw.toList = before ++ '.' :: after ∧ '.' ∉ before ∧ Split after

/-! ### Cutting fractions -/

/-- **A fraction is not cut exactly if its second byte is inside a character.** -/
theorem cutFraction_eq_none_iff {fraction : List Char} :
    cutFraction fraction = none ↔ Split fraction := by
  constructor
  · intro h
    unfold cutFraction at h
    split at h
    · cases h
    · next c =>
      split at h
      · cases h
      · next hlarge => exact ⟨[], c, [], rfl, by decide, by simpa using hlarge⟩
    · next c d rest =>
      split at h
      · cases h
      · next htwo =>
        split at h
        · cases h
        · next hones =>
          have hc := c.utf8Size_pos
          have hd := d.utf8Size_pos
          by_cases hone : c.utf8Size = 1
          · refine ⟨[c], d, rest, rfl, by simp [hone], ?_⟩
            have : d.utf8Size ≠ 1 := fun h ↦ hones ⟨hone, h⟩
            simp only [bytes_cons, bytes_nil]
            omega
          · refine ⟨[], c, d :: rest, rfl, by decide, ?_⟩
            rw [bytes_nil]
            omega
  -- a character that the second byte is inside of is the first one or comes after one of a single
  -- byte
  · rintro ⟨front, c, rest, rfl, hfront, hc⟩
    match front with
    | [] =>
      have hc : 2 < c.utf8Size := by simpa using hc
      cases rest with
      | nil => simp only [List.nil_append, cutFraction, if_neg (by omega : ¬c.utf8Size ≤ 2)]
      | cons d rest =>
        simp only [List.nil_append, cutFraction]
        rw [if_neg (by omega), if_neg (by omega)]
    | [b] =>
      simp only [bytes_cons, bytes_nil] at hfront hc
      have hb := b.utf8Size_pos
      simp only [List.cons_append, List.nil_append, cutFraction]
      rw [if_neg (by omega), if_neg (by omega)]
    | a :: b :: front =>
      simp only [bytes_cons] at hfront
      have ha := a.utf8Size_pos
      have hb := b.utf8Size_pos
      omega

/-- What comes before the first point has no point. -/
theorem point_not_mem_splitPoint (text : List Char) : '.' ∉ (splitPoint text).1 := by
  induction text with
  | nil => exact List.not_mem_nil
  | cons c text ih =>
    rw [splitPoint]
    split
    · exact List.not_mem_nil
    · next hc => exact List.not_mem_cons_of_ne_of_not_mem (Ne.symm hc) ih

/-- What is behind the first point is the fraction, whatever sign is in front; without a point there
is none. -/
theorem fraction_spec (text : List Char) :
    ((splitPoint (splitSign text).2).2 = [] ∧ '.' ∉ text) ∨
      ∃ before, '.' ∉ before ∧ text = before ++ '.' :: (splitPoint (splitSign text).2).2 := by
  obtain ⟨sign, hsign, -⟩ := exists_sign text
  obtain ⟨fraction, hnumber, hfraction⟩ := exists_fraction (splitSign text).2
  set number := (splitSign text).2
  have hpoint : '.' ∉ sign.text ++ (splitPoint number).1 := by
    rw [List.mem_append]
    rintro (h | h)
    · cases sign <;> simp [Sign.text] at h
    · exact point_not_mem_splitPoint number h
  cases fraction with
  | none =>
    rw [Numeral.pointed, List.append_nil] at hnumber
    rw [← hnumber, ← hsign] at hpoint
    exact .inl ⟨hfraction, hpoint⟩
  | some digits =>
    have hdigits : (splitPoint number).2 = digits := hfraction
    refine .inr ⟨_, hpoint, ?_⟩
    rw [hdigits, List.append_assoc]
    exact hsign.trans (congrArg (sign.text ++ ·) hnumber)

/-- **Exactly the torn texts abandon their reader**, -/
theorem parse_eq_abandoned_iff {raw : String} : parse raw = .error .abandoned ↔ Torn raw := by
  have hparse : parse raw = .error .abandoned ↔
      cutFraction (splitPoint (splitSign (Text.trim raw.toList)).2).2 = none := by
    unfold parse
    simp only
    split
    · next hcut => exact iff_of_true rfl hcut
    · next hcut =>
      refine iff_of_false ?_ (by rw [hcut]; nofun)
      split
      · split <;> nofun
      · nofun
  rw [hparse, cutFraction_eq_none_iff]
  -- without a point there is no fraction to be cut; with one the fraction is what comes after the
  -- first
  rcases fraction_spec (Text.trim raw.toList) with ⟨hnil, hpoint⟩ | ⟨before, hbefore, htext⟩
  · refine iff_of_false ?_ ?_
    · rw [hnil]
      rintro ⟨front, c, rest, hparts, -⟩
      exact absurd hparts.symm (by simp)
    · rintro ⟨before, after, htext, -⟩
      exact hpoint (htext ▸ List.mem_append_right _ List.mem_cons_self)
  · refine ⟨fun hsplit ↦ ⟨before, _, htext, hbefore, hsplit⟩, ?_⟩
    rintro ⟨before', after, htext', hbefore', hsplit⟩
    have hparts := congrArg splitPoint (htext.symm.trans htext')
    rw [splitPoint_of_not_mem hbefore, splitPoint_of_not_mem hbefore'] at hparts
    rwa [congrArg Prod.snd hparts]

/-- and all others are read or refused. -/
theorem read_or_refused {raw : String} (h : ¬Torn raw) :
    (∃ a, parse raw = .ok a) ∨ parse raw = .refuse ⟨raw⟩ := by
  rw [← parse_eq_abandoned_iff] at h
  unfold parse at h ⊢
  simp only at h ⊢
  split at h
  · exact absurd rfl h
  · split
    · split
      · exact .inl ⟨_, rfl⟩
      · exact .inr rfl
    · exact .inr rfl

end ContributionRegistry.Amount
