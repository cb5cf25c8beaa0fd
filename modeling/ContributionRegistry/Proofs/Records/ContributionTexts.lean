import ContributionRegistry.Cache.Basic
import ContributionRegistry.Proofs.Amount.Rereading
import ContributionRegistry.Proofs.Calendar.Rereading
import ContributionRegistry.Proofs.Json.Layouts
import ContributionRegistry.Proofs.Json.Rereading

/-!
# Contributions and their texts

What decoding makes of a contribution, and of a list of contributions, that was encoded. Periods and
timestamps are read back as they were, texts are texts, so all depends on the amount: below
`Amount.readBound` it is read back and with it the contribution, from there on the contribution is
refused for it (`Contribution.ofJson_toJson`).

A list is decoded as itself, or refused for the first such amount in it
(`TextCache.decodeList_encodeList`), and never decoded as another list
(`TextCache.eq_of_decodeList_encodeList`). Payable amounts are below the bound, so what a store
accepted is always read back (`TextCache.decodeList_encodeList_of_payable`).

A contribution is written as its fields with their values (`Contribution.written`), so it is enough
to know which values fit their fields.
-/

namespace ContributionRegistry

open Json (DecodeFault Decoded Field checkFields fitting membersOf namedOf ofText)

namespace Contribution

/-- The fields of a contribution with what is written to them. -/
def written (c : Contribution) : List (Field × Json) :=
  [(textField "id", ofText c.id), (periodField "period", ofText c.period.text),
    (textField "rssbNumber", ofText c.rssbNumber), (textField "matricule", ofText c.matricule),
    (amountField "amount", ofText c.amount.text),
    (timestampField "createdAt", ofText c.createdAt.text),
    (timestampField "updatedAt", ofText c.updatedAt.text)]

theorem toJson_eq (c : Contribution) : c.toJson = .object (membersOf c.written) := rfl

/-- Whether the amount of a contribution is read back from its written form. -/
def amountReadable (c : Contribution) : Bool := c.amount.minorUnits.natAbs < Amount.readBound

/-- What is wrong with a contribution whose amount is not read back. -/
def amountFault (c : Contribution) : DecodeFault :=
  .unfit (some (.field "amount")) (.invalidAmount ⟨c.amount.text⟩)

end Contribution

/-! ### Scalars -/

theorem Json.toPeriod_ofText (p : Period) : Json.toPeriod (ofText p.text) = .ok p := by
  simp only [Json.toPeriod, Json.toText, Json.textFor, ofText, Attempt.ok_bind, Period.parse_text]
  rfl

theorem Json.toTimestamp_ofText (t : Calendar.Timestamp) :
    Json.toTimestamp (ofText t.text) = .ok t := by
  simp only [Json.toTimestamp, Json.textFor, ofText, Attempt.ok_bind,
    Calendar.Timestamp.parse?_text]
  rfl

/-- The text of an amount is read back below the bound, and refused from there on. -/
theorem Json.toAmount_ofText (a : Amount) :
    Json.toAmount (ofText a.text) =
      if a.minorUnits.natAbs < Amount.readBound then .ok a
      else .error (.refused (.unfit none (.invalidAmount ⟨a.text⟩))) := by
  rw [ofText, Json.toAmount, Amount.parse_text]
  split <;> rfl

/-! ### Fields -/

theorem textField_fits (name s : String) : (textField name).fits (ofText s) = .ok () := rfl

theorem periodField_fits (name : String) (p : Period) :
    (periodField name).fits (ofText p.text) = .ok () := by
  simp only [periodField, fitting, Json.toPeriod_ofText]
  rfl

theorem timestampField_fits (name : String) (t : Calendar.Timestamp) :
    (timestampField name).fits (ofText t.text) = .ok () := by
  simp only [timestampField, fitting, Json.toTimestamp_ofText]
  rfl

theorem amountField_fits (name : String) (a : Amount) :
    (amountField name).fits (ofText a.text) =
      if a.minorUnits.natAbs < Amount.readBound then .ok ()
      else .error (.refused (.unfit none (.invalidAmount ⟨a.text⟩))) := by
  simp only [amountField, fitting, Json.toAmount_ofText]
  split <;> rfl

/-! ### One contribution -/

namespace Contribution

/-- Checking what is written to the fields of a contribution is checking its amount. -/
theorem checkFields_written (c : Contribution) :
    checkFields c.written =
      if c.amountReadable then .ok () else .error (.refused c.amountFault) := by
  simp only [written, checkFields, textField_fits, periodField_fits, timestampField_fits,
    amountField_fits, amountReadable, decide_eq_true_eq]
  split <;> rfl

/-- **A written contribution is read as itself exactly if its amount is**, and refused for its
amount otherwise. -/
theorem ofJson_toJson (c : Contribution) :
    ofJson c.toJson = if c.amountReadable then .ok c else .error (.refused c.amountFault) := by
  rw [ofJson, Json.Layout.decode, toJson_eq, Json.Layout.open_object rfl (by decide),
    checkFields_written]
  split
  · next h =>
    have hperiod : (namedOf c.written).get "period" Json.toPeriod = .ok c.period :=
      Json.toPeriod_ofText c.period
    have hamount : (namedOf c.written).get "amount" Json.toAmount = .ok c.amount :=
      (Json.toAmount_ofText c.amount).trans (if_pos (of_decide_eq_true h))
    have hcreated : (namedOf c.written).get "createdAt" Json.toTimestamp = .ok c.createdAt :=
      Json.toTimestamp_ofText c.createdAt
    have hupdated : (namedOf c.written).get "updatedAt" Json.toTimestamp = .ok c.updatedAt :=
      Json.toTimestamp_ofText c.updatedAt
    simp only [Except.map, Attempt.ok_bind, read, hperiod, hamount, hcreated, hupdated]
    rfl
  · rfl

theorem isPlain_toJson (c : Contribution) : c.toJson.isPlain = true := rfl

/-! ### Lists -/

/-- The first contribution of a list whose amount is not read back. -/
def firstUnreadable? (cs : List Contribution) : Option Contribution :=
  cs.find? fun c ↦ !c.amountReadable

/-- The first such contribution is the one in front, or else among the others. -/
theorem firstUnreadable?_cons (c : Contribution) (cs : List Contribution) :
    firstUnreadable? (c :: cs) = if c.amountReadable then firstUnreadable? cs else some c := by
  rw [firstUnreadable?, List.find?_cons]
  cases c.amountReadable <;> rfl

/-- There is none if all can be read back. -/
theorem firstUnreadable?_eq_none_iff {cs : List Contribution} :
    firstUnreadable? cs = none ↔ ∀ c ∈ cs, c.amountReadable = true := by
  simp [firstUnreadable?]

theorem isPlain_listToJson (cs : List Contribution) : (listToJson cs).isPlain = true :=
  Json.isPlain_array_map isPlain_toJson cs

/-- **A list that was written item by item is read up to the first amount that is refused**, in
whichever way a contribution is written. -/
theorem mapM_written {ε τ : Type} {read : τ → Except ε Contribution} {write : Contribution → τ}
    {fault : Contribution → ε} {cs : List Contribution}
    (h : ∀ c ∈ cs, read (write c) = if c.amountReadable then .ok c else .error (fault c)) :
    (cs.map write).mapM read = match firstUnreadable? cs with
      | none => .ok cs
      | some c => .error (fault c) := by
  induction cs with
  | nil => rfl
  | cons c cs ih =>
    obtain ⟨hc, hcs⟩ := List.forall_mem_cons.1 h
    rw [List.map_cons, List.mapM_cons, ih hcs, hc, firstUnreadable?_cons]
    cases c.amountReadable with
    | false => rfl
    | true => cases firstUnreadable? cs <;> rfl

/-- A list of trees is decoded up to the first amount that is refused. -/
theorem mapM_ofJson_map_toJson (cs : List Contribution) :
    (cs.map toJson).mapM ofJson = match firstUnreadable? cs with
      | none => .ok cs
      | some c => .error (.refused c.amountFault) :=
  mapM_written fun c _ ↦ ofJson_toJson c

end Contribution

namespace TextCache

/-- **Decoding a written list** gives the list, or complains about the first amount in it that is
not read back. -/
theorem decodeList_encodeList (cs : List Contribution) :
    decodeList (encodeList cs) = match Contribution.firstUnreadable? cs with
      | none => .ok cs
      | some c => .error (.refused (.serialization (.json c.amountFault))) := by
  rw [decodeList, encodeList, Json.decodeText_render (Contribution.isPlain_listToJson cs)]
  show Attempt.restate _ ((cs.map Contribution.toJson).mapM Contribution.ofJson) = _
  rw [Contribution.mapM_ofJson_map_toJson]
  cases Contribution.firstUnreadable? cs <;> rfl

/-- A list of payable contributions is decoded as itself. -/
theorem decodeList_encodeList_of_payable {cs : List Contribution}
    (h : ∀ c ∈ cs, c.amount.Payable) : decodeList (encodeList cs) = .ok cs := by
  have hreadable : ∀ c ∈ cs, c.amountReadable = true :=
    fun c hc ↦ decide_eq_true (h c hc).lt_readBound
  rw [decodeList_encodeList, Contribution.firstUnreadable?_eq_none_iff.2 hreadable]

/-- A written list is decoded as no other list. -/
theorem eq_of_decodeList_encodeList {cs ds : List Contribution}
    (h : decodeList (encodeList cs) = .ok ds) : ds = cs := by
  rw [decodeList_encodeList] at h
  cases hfirst : Contribution.firstUnreadable? cs with
  | none =>
    rw [hfirst] at h
    cases h
    rfl
  | some c =>
    rw [hfirst] at h
    cases h

/-- No list that was encoded abandons who decodes it. -/
theorem decodeList_encodeList_ne_abandoned (cs : List Contribution) :
    decodeList (encodeList cs) ≠ .error .abandoned := by
  rw [decodeList_encodeList]
  split <;> nofun

end TextCache

end ContributionRegistry
