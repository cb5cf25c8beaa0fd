import ContributionRegistry.Settings.Basic

/-!
# Lists among the settings

A list is set as a text with commas between its items. What the items are is said without reading
the text: it is made of parts without commas, joined by commas, and an item is what is left of a
part without the blanks around it, if anything is left (`Lists`). Reading gives just these
(`mem_listSetting_iff`).

The parts are those of the library's `List.splitOn` (`splitCommas_eq_splitOn`), where a text is the
parts joined again.
-/

namespace ContributionRegistry.Settings

/-- One of the parts that commas join to a text. -/
def IsPart (part text : List Char) : Prop :=
  ∃ parts, part ∈ parts ∧ (∀ p ∈ parts, ',' ∉ p) ∧ [','].intercalate parts = text

/-- An item of the list that a text spells. -/
def Lists (text item : String) : Prop :=
  item ≠ "" ∧ ∃ part, IsPart part text.toList ∧ Text.trim part = item.toList

/-- Cutting at commas is the library's cutting at an item. -/
theorem splitCommas_eq_splitOn (text : List Char) : splitCommas text = text.splitOn ',' := by
  induction text with
  | nil => rfl
  | cons c text ih =>
    rw [splitCommas, List.splitOn_cons_eq_if_modifyHead, ih]
    by_cases hc : c = ','
    · rw [if_pos hc, if_pos (beq_iff_eq.2 hc)]
    · rw [if_neg hc, if_neg (by rwa [beq_iff_eq])]
      obtain ⟨part, parts, hparts⟩ := List.exists_cons_of_ne_nil (List.splitOn_ne_nil ',' text)
      rw [hparts]
      rfl

theorem not_mem_of_mem_splitCommas {text part : List Char} (h : part ∈ splitCommas text) :
    ',' ∉ part := by
  induction text generalizing part with
  | nil =>
    rw [splitCommas, List.mem_singleton] at h
    rw [h]
    exact List.not_mem_nil
  | cons c text ih =>
    rw [splitCommas] at h
    split at h
    · rcases List.mem_cons.1 h with rfl | h
      · exact List.not_mem_nil
      · exact ih h
    · next hc =>
      split at h
      · rw [List.mem_singleton.1 h, List.mem_singleton]
        exact fun heq ↦ hc heq.symm
      · next p parts hparts =>
        rw [hparts] at ih
        rcases List.mem_cons.1 h with rfl | h
        · rw [List.mem_cons, not_or]
          exact ⟨fun heq ↦ hc heq.symm, ih List.mem_cons_self⟩
        · exact ih (List.mem_cons_of_mem p h)

/-- **A text is split into just the parts that commas join to it.** -/
theorem mem_splitCommas_iff {text part : List Char} :
    part ∈ splitCommas text ↔ IsPart part text := by
  constructor
  · intro h
    refine ⟨splitCommas text, h, fun p ↦ not_mem_of_mem_splitCommas, ?_⟩
    rw [splitCommas_eq_splitOn]
    exact List.intercalate_splitOn ','
  · rintro ⟨parts, hmem, hparts, rfl⟩
    rwa [splitCommas_eq_splitOn, List.splitOn_intercalate ',' hparts (List.ne_nil_of_mem hmem)]

/-- **The items of a list that is read are those that its text spells.** -/
theorem mem_listSetting_iff {vars : Variables} {name fallback item : String} :
    item ∈ listSetting vars name fallback ↔ Lists (textSetting vars name fallback) item := by
  rw [listSetting, List.mem_map, Lists]
  constructor
  · rintro ⟨trimmed, htrimmed, rfl⟩
    obtain ⟨hmem, hne⟩ := List.mem_filter.1 htrimmed
    obtain ⟨part, hpart, rfl⟩ := List.mem_map.1 hmem
    refine ⟨fun hempty ↦ ?_, part, mem_splitCommas_iff.1 hpart, String.toList_ofList.symm⟩
    have hnil : Text.trim part = [] := by
      rw [← String.toList_ofList (l := Text.trim part), hempty]
      rfl
    rw [hnil] at hne
    cases hne
  · rintro ⟨hne, part, hpart, hitem⟩
    refine ⟨item.toList, List.mem_filter.2 ⟨?_, ?_⟩, String.ofList_toList⟩
    · rw [← hitem]
      exact List.mem_map_of_mem (mem_splitCommas_iff.2 hpart)
    · rcases hlist : item.toList with _ | ⟨c, rest⟩
      · exact absurd (String.toList_inj.1 hlist) hne
      · rfl

end ContributionRegistry.Settings
