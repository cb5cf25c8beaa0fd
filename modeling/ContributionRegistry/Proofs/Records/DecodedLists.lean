import ContributionRegistry.Proofs.Records.ContributionTexts
import Mathlib.Control.Monad.Basic

/-!
# Decoded contribution lists

Which decoded lists survive being written and decoded again (`decodeList_encodeList_of_decodeList`).
The amount of a contribution comes from a text, from a whole number or from another number. Texts
and other numbers pass the grammar of amounts, which is also the one that written amounts are read
by, so nothing can go wrong with them. Whole numbers do not: one of seventeen digits is taken, as
long as 64 bits hold its minor units, but what is written for it has seventeen digits before the
point, which the grammar refuses.

So the lists that do not survive are those with such a whole number among their amounts
(`wholeAmounts`). A list that survives has a whole number of four digits
(`decodeList_encodeList_thousand`), one that does not has the least of seventeen
(`decodeList_encodeList_seventeen_digits`).
-/

namespace ContributionRegistry

/-! ### Whole numbers as amounts -/

theorem Json.wrongKind_ne_ok {α : Type} (expected : String) (value : Json) (a : α) :
    Json.wrongKind expected value ≠ .ok a := by
  cases value with
  | number literal =>
    rw [Json.wrongKind]
    split <;> nofun
  | string content => cases content <;> nofun
  | null | bool | array | object | broken => nofun

/-- The whole number that a tree is. -/
def Json.wholeNumber? : Json → Option Int
  | .number literal =>
    match literal.value with
    | .integer n => some n
    | _ => none
  | _ => none

/-- A whole number of francs in minor units. -/
theorem Amount.minorUnits_of_ofUnits {n : Int} {a : Amount} (h : Amount.ofUnits n = .ok a) :
    a.minorUnits = n * 100 := by
  unfold Amount.ofUnits at h
  split at h
  · next hunits =>
    cases h
    exact Amount.minorUnits_of_ofMinorUnits? hunits
  · cases h

/-- Only whole numbers give amounts that are not read back. -/
theorem Json.toAmount_lt_readBound_iff {value : Json} {a : Amount}
    (h : Json.toAmount value = .ok a) :
    a.minorUnits.natAbs < Amount.readBound ↔
      ∀ units ∈ value.wholeNumber?, units.natAbs < 10000000000000000 := by
  unfold Json.toAmount at h
  split at h
  · next content =>
    exact iff_of_true (Amount.natAbs_lt_readBound (Attempt.eq_ok_of_restate h)) nofun
  · next literal =>
    split at h
    -- the one case without the grammar of amounts: all that is checked is that 64 bits are enough
    · next n hn =>
      have hunits : a.minorUnits = n * 100 := by
        cases ha : Amount.ofUnits n with
        | error e => rw [ha] at h; cases h
        | ok b =>
          rw [ha] at h
          cases h
          exact Amount.minorUnits_of_ofUnits ha
      simp only [Json.wholeNumber?, hn, Option.mem_some, forall_eq', hunits, Amount.readBound]
      omega
    · next hn =>
      refine iff_of_true (Amount.natAbs_lt_readBound (Attempt.eq_ok_of_restate h)) ?_
      simp [Json.wholeNumber?, hn]
    · cases h
  · exact absurd h (Json.wrongKind_ne_ok _ _ _)

/-! ### Contributions -/

namespace Contribution

/-- The whole number that the amount of a contribution is given as. -/
def wholeAmount? (item : Json) : Option Int :=
  match layout.open item with
  | .ok opened => ((opened.lookup "amount").getD .null).wholeNumber?
  | .error _ => none

/-- The whole numbers that amounts are given as in a list of contributions. -/
def wholeAmounts : Json → List Int
  | .array items => items.filterMap wholeAmount?
  | _ => []

/-- A decoded contribution is read back unless its amount was such a whole number. -/
theorem amountReadable_iff {item : Json} {c : Contribution} (h : ofJson item = .ok c) :
    c.amountReadable = true ↔ ∀ units ∈ wholeAmount? item, units.natAbs < 10000000000000000 := by
  obtain ⟨opened, hopen, h⟩ := bind_eq_ok h
  obtain ⟨id, -, h⟩ := bind_eq_ok h
  obtain ⟨period, -, h⟩ := bind_eq_ok h
  obtain ⟨rssbNumber, -, h⟩ := bind_eq_ok h
  obtain ⟨matricule, -, h⟩ := bind_eq_ok h
  obtain ⟨amount, hamount, h⟩ := bind_eq_ok h
  obtain ⟨createdAt, -, h⟩ := bind_eq_ok h
  obtain ⟨updatedAt, -, h⟩ := bind_eq_ok h
  cases h
  rw [amountReadable, decide_eq_true_eq, Json.toAmount_lt_readBound_iff hamount, wholeAmount?,
    hopen]

/-- Likewise all contributions of a list. -/
theorem amountReadable_iff_of_mapM {items : List Json} {cs : List Contribution}
    (h : items.mapM ofJson = .ok cs) :
    (∀ c ∈ cs, c.amountReadable = true) ↔
      ∀ units ∈ items.filterMap wholeAmount?, units.natAbs < 10000000000000000 := by
  induction items generalizing cs with
  | nil =>
    cases h
    simp
  | cons item items ih =>
    rw [List.mapM_cons] at h
    obtain ⟨c, hc, h⟩ := bind_eq_ok h
    obtain ⟨rest, hrest, h⟩ := bind_eq_ok h
    cases h
    rw [List.forall_mem_cons, amountReadable_iff hc, ih hrest, List.filterMap_cons]
    cases wholeAmount? item <;> simp

theorem amountReadable_iff_of_listOfJson {value : Json} {cs : List Contribution}
    (h : listOfJson value = .ok cs) :
    (∀ c ∈ cs, c.amountReadable = true) ↔
      ∀ units ∈ wholeAmounts value, units.natAbs < 10000000000000000 := by
  rw [listOfJson] at h
  unfold Json.toList at h
  split at h
  · exact amountReadable_iff_of_mapM h
  · exact absurd h (Json.wrongKind_ne_ok _ _ _)

end Contribution

/-! ### Texts -/

namespace TextCache

/-- The tree of a text. -/
def treeOf (text : String) : Json := (Json.parse (Json.Source.ofText text.toList)).value

/-- A text that is decoded is decoded from its tree. -/
theorem listOfJson_treeOf {text : String} {cs : List Contribution} (h : decodeList text = .ok cs) :
    Contribution.listOfJson (treeOf text) = .ok cs := by
  have hdecoded : Json.decodeText Contribution.listOfJson text = .ok cs :=
    Attempt.eq_ok_of_restate h
  obtain ⟨list, hlist, hended⟩ := bind_eq_ok hdecoded
  split at hended
  · cases hended
    exact hlist
  · cases hended

/-- **A decoded list survives being written and decoded again** exactly if none of its amounts was
given as a whole number of seventeen digits or more. Otherwise the second decoding fails, over one
of these amounts. -/
theorem decodeList_encodeList_of_decodeList {text : String} {cs : List Contribution}
    (h : decodeList text = .ok cs) :
    (decodeList (encodeList cs) = .ok cs ↔
      ∀ units ∈ Contribution.wholeAmounts (treeOf text), units.natAbs < 10000000000000000) ∧
    (decodeList (encodeList cs) = .ok cs ∨ ∃ c ∈ cs,
      decodeList (encodeList cs) = .error (.refused (.serialization (.json c.amountFault)))) := by
  rw [← Contribution.amountReadable_iff_of_listOfJson (listOfJson_treeOf h), decodeList_encodeList,
    ← Contribution.firstUnreadable?_eq_none_iff]
  cases hfirst : Contribution.firstUnreadable? cs with
  | none => exact ⟨⟨fun _ ↦ rfl, fun _ ↦ rfl⟩, .inl rfl⟩
  | some c => exact ⟨⟨nofun, nofun⟩, .inr ⟨c, List.mem_of_find?_eq_some hfirst, rfl⟩⟩

/-- A text with one contribution, its amount as told. -/
def textWithAmount (amount : String) : String :=
  "[[\"c\",\"1970-01\",\"1\",\"2\"," ++ amount ++
    ",\"1970-01-01T00:00:00Z\",\"1970-01-01T00:00:00Z\"]]"

/-- The contribution of such a text. -/
def contributionWithAmount (period : Period) (amount : Amount) : Contribution where
  id := "c"
  period := period
  rssbNumber := "1"
  matricule := "2"
  amount := amount
  createdAt := .startOf .epoch
  updatedAt := .startOf .epoch

/-- A thousand as a floating-point number is decoded again. -/
theorem decodeList_encodeList_thousand :
    ∃ c : Contribution, c.amount.minorUnits = 100000 ∧
      decodeList (textWithAmount "1e3") = .ok [c] ∧ decodeList (encodeList [c]) = .ok [c] := by
  refine ⟨contributionWithAmount ⟨1970, 1, by decide, by decide, by decide⟩
    ⟨100000, by decide, by decide⟩, rfl, ?_⟩
  have hdecode : decodeList (textWithAmount "1e3") =
      .ok [contributionWithAmount ⟨1970, 1, by decide, by decide, by decide⟩
        ⟨100000, by decide, by decide⟩] := by decide +kernel
  exact ⟨hdecode, (decodeList_encodeList_of_decodeList hdecode).1.2 (by decide +kernel)⟩

/-- A whole number of seventeen digits is decoded, but not again. -/
theorem decodeList_encodeList_seventeen_digits :
    ∃ c : Contribution, decodeList (textWithAmount "10000000000000000") = .ok [c] ∧
      decodeList (encodeList [c]) = .error (.refused (.serialization (.json
        (.unfit (some (.field "amount")) (.invalidAmount ⟨"10000000000000000.00"⟩))))) := by
  refine ⟨contributionWithAmount ⟨1970, 1, by decide, by decide, by decide⟩
    ⟨1000000000000000000, by decide, by decide⟩, ?_, ?_⟩
  · decide +kernel
  · rw [decodeList_encodeList]
    rfl

end TextCache

end ContributionRegistry
