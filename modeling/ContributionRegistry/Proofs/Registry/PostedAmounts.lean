import ContributionRegistry.Proofs.Amount.Spellings
import ContributionRegistry.Proofs.Records.Priced
import ContributionRegistry.Proofs.Registry.Histories
import ContributionRegistry.Proofs.Registry.Answers
import ContributionRegistry.Proofs.Text.Bytes

/-!
# Posting amounts

A request that posts a contribution, looked at by the value that stands for its amount (`Posts`).
Nothing but that value is different between such requests, so what becomes of one is what becomes of
its value, as long as nothing else is wrong with the body (`InOrder`).

Decoding the body is decoding the value and putting the amount in (`Posts.decodeBody_eq`, by
`Priced.ofJson_plug`); the checks look at the amount by itself; and what passes is stored as it was
decoded (`Posts.stored`). So an amount that the registry takes is stored to the hundredth, whether
it is posted as a string or as a number, and in which spelling makes no difference
(`spellings_interchangeable`).
-/

namespace ContributionRegistry.Deployment.Registry

open Http (Request Response)
open Json (Frame)
open Service

/-- The request posts a contribution, and the value stands for the amount in its body. -/
structure Posts (a : Arrival) (f : Frame) (v : Json) : Prop where
  /-- It is a post. -/
  method_eq : a.request.method = "POST"
  /-- It goes to the contributions. -/
  resource_eq : a.resource? = some .contributions
  /-- Its header says that the body is JSON. -/
  json : saysJson a.request = true
  /-- The body is not too long to be read. -/
  length_le : a.request.body.length ≤ bodyBound
  /-- The body is the record with this value for the amount. -/
  value_eq : (Json.parse (Text.Utf8.decode a.request.body)).value = f.plug "amount" v
  /-- The rest of the record comes to the amount. -/
  around : pricedNewContribution.Around f

/-- With some other amount, the body is one of a contribution that passes the checks. -/
def InOrder (f : Frame) (c : NewContribution) : Prop :=
  (∃ v, NewContribution.ofJson (f.plug "amount" v) = .ok c) ∧ c.validate = .ok ()

section

variable {a : Arrival} {f : Frame} {v : Json} {c : NewContribution} {amount : Amount}
  {origins : List String} {r : Registry}

/-- **Decoding the body** is decoding the record around the value. -/
theorem Posts.decodeBody_eq (h : Posts a f v) : decodeBody NewContribution.ofJson a.request =
    (do
      let c ← NewContribution.ofJson (f.plug "amount" v)
      if (Json.parse (Text.Utf8.decode a.request.body)).ended then return c
      else Json.Decoded.malformed).restate fun fault ↦ .invalidInput (bodyComplaint fault) := by
  rw [decodeBody, h.json, if_neg (by decide), if_neg (not_lt.2 h.length_le), Json.decode,
    h.value_eq]

/-- The body is decoded with the amount in it. -/
theorem Posts.decodeBody_eq_ok (h : Posts a f v)
    (hended : (Json.parse (Text.Utf8.decode a.request.body)).ended = true) (horder : InOrder f c)
    (hv : Json.toAmount v = .ok amount) :
    decodeBody NewContribution.ofJson a.request = .ok { c with amount } := by
  obtain ⟨⟨v₀, hv₀⟩, -⟩ := horder
  have hplug : NewContribution.ofJson (f.plug "amount" v) = .ok { c with amount } := by
    have hplug := pricedNewContribution.ofJson_plug h.around hv₀ v
    rw [hv] at hplug
    exact hplug
  rw [h.decodeBody_eq, hplug, hended]
  rfl

/-- Another payable amount passes the checks as well. -/
theorem validate_of_payable (hc : c.validate = .ok ()) (hamount : amount.Payable) :
    NewContribution.validate { c with amount } = .ok () := by
  obtain ⟨_, hrssbNumber, h⟩ := bind_eq_ok hc
  obtain ⟨_, hmatricule, -⟩ := bind_eq_ok h
  have hcheck : Intake.checkAmount amount = .ok () := by
    obtain ⟨hnonneg, hle⟩ := hamount
    rw [Intake.checkAmount, if_neg (by simpa [Amount.isNegative] using hnonneg),
      if_neg (not_lt.2 hle)]
  rw [NewContribution.validate]
  simp only
  rw [hrssbNumber, hmatricule, hcheck]
  rfl

/-- A posted amount that can be paid is stored as it was decoded. -/
theorem Posts.stored (h : Posts a f v)
    (hended : (Json.parse (Text.Utf8.decode a.request.body)).ended = true) (horder : InOrder f c)
    (hv : Json.toAmount v = .ok amount) (hamount : amount.Payable)
    (hfree : r.contributions.shelf.taken a.id = false)
    (hworks : r.contributions.faults.create = false) :
    status? (serve origins a r).1 = some 201 ∧
      (serve origins a r).2.contributions.shelf.records = r.contributions.shelf.records ++
        [NewContribution.enter { c with amount } a.stamp] := by
  have hbody := h.decodeBody_eq_ok hended horder hv
  -- a fresh identifier is no reason to refuse the contribution
  have hposting : contributionBook.Posting (fun _ ↦ False) origins a r :=
    contributionBook.posting origins h.method_eq h.resource_eq fun input ↦
      ⟨False.elim, fun htaken ↦ by cases hfree.symm.trans htaken⟩
  have hmade : status? (serve origins a r).1 = some 201 := hposting.made_iff.2
    ⟨_, hbody, validate_of_payable horder.2 hamount, id, hworks⟩
  obtain ⟨input, s, hinput, -, hgrown, hleft⟩ := hposting.made hmade
  cases hbody.symm.trans hinput
  refine ⟨hmade, ?_⟩
  rw [hleft]
  exact hgrown

end

/-! ### Amounts as numbers and as strings -/

/-- **Up to the largest amount, numbers are as good as strings.** For every amount that is not
larger than that, the number that its text spells, with the zeros at the end of the fraction or
without, is decoded as the amount, and so is the string of the text. And if the amount can be paid,
a request whose body is in order apart from it makes a record with that amount, to the hundredth. -/
theorem spellings_interchangeable (amount : Amount)
    (hlarge : amount.minorUnits.natAbs ≤ Amount.largest.minorUnits.natAbs) (text : String)
    (htext : amount.Spelled text) :
    Json.decodeText Json.toAmount text = .ok amount ∧
    Json.decodeText Json.toAmount (Json.ofText amount.text).render = .ok amount ∧
    (0 ≤ amount.minorUnits → ∀ (origins : List String) (start : Registry) (past : List Event)
      (a : Arrival) (f : Frame) (l : NumberLiteral) (c : NewContribution),
      Fresh start (past ++ [.arrival a]) → l.Positional → Amount.literalText l = text →
      Posts a f (.number l) →
      (Json.parse (Text.Utf8.decode a.request.body)).ended = true → InOrder f c →
      let now := after origins start past
      now.contributions.faults.create = false →
      status? (serve origins a now).1 = some 201 ∧
      (serve origins a now).2.contributions.shelf.records = now.contributions.shelf.records ++
        [NewContribution.enter { c with amount } a.stamp]) := by
  refine ⟨Amount.decodeText_spelled htext hlarge, Amount.decodeText_string hlarge, ?_⟩
  intro hnonneg origins start past a f l c hfresh hl hliteral hposts hended horder now hworks
  subst hliteral
  have hamount : amount.Payable := by
    have hlargest : Amount.largest.minorUnits.natAbs = 999999999999 := rfl
    have hlargest' : Amount.largest.minorUnits = 999999999999 := rfl
    exact ⟨hnonneg, by omega⟩
  exact hposts.stored hended horder ((htext.spells hl).toAmount_eq_ok hlarge) hamount
    hfresh.not_taken hworks

/-- The text of a contribution of 19.9. -/
def nineteenNinety : String :=
  "\x7b\"period\":\"2024-01\",\"rssbNumber\":\"1\",\"matricule\":\"2\",\"amount\":19.9\x7d"

/-- The same contribution without its amount. -/
def unpriced : Frame :=
  .object [Json.member "period" (Json.ofText "2024-01"), Json.member "rssbNumber" (Json.ofText "1"),
    Json.member "matricule" (Json.ofText "2")] []

/-- The tree of such a body. -/
theorem parse_nineteenNinety :
    Json.parse (Text.Utf8.decode (posting "c" nineteenNinety).request.body) =
      ⟨unpriced.plug "amount" (.number ⟨false, ['1', '9'], ['9'], none⟩), true⟩ := by
  have hl : NumberLiteral.Positional ⟨false, ['1', '9'], ['9'], none⟩ := by decide
  have htext : nineteenNinety.toList =
      Json.write (unpriced.plug "amount" (.number ⟨false, ['1', '9'], ['9'], none⟩)) := by
    decide +kernel
  rw [posting, arriving, Text.Utf8.decode_encode, htext]
  exact Json.parse_write_number rfl hl "amount"

/-- An amount of 19.90 is stored as such, posted as 19.9. -/
theorem spellings_interchangeable_nineteenNinety :
    let amount : Amount := ⟨1990, by decide, by decide⟩
    let a := posting "c" nineteenNinety
    let now := after ["*"] {} []
    amount.Spelled "19.9" ∧ Json.decodeText Json.toAmount "19.9" = .ok amount ∧
    status? (serve ["*"] a now).1 = some 201 ∧
    (serve ["*"] a now).2.contributions.shelf.records = now.contributions.shelf.records ++
      [NewContribution.enter ⟨⟨2024, 1, by decide, by decide, by decide⟩, "1", "2", amount⟩
        a.stamp] := by
  have hspelled : Amount.Spelled ⟨1990, by decide, by decide⟩ "19.9" :=
    ⟨['1', '9'], ['9'], ['0'], by decide, by simp, by decide⟩
  have hposts : Posts (posting "c" nineteenNinety) unpriced
      (.number ⟨false, ['1', '9'], ['9'], none⟩) :=
    ⟨rfl, by decide, by decide, by decide, by rw [parse_nineteenNinety], pricedNewContribution.mem⟩
  have horder : InOrder unpriced ⟨⟨2024, 1, by decide, by decide, by decide⟩, "1", "2",
      ⟨0, by decide, by decide⟩⟩ :=
    ⟨⟨Json.ofText "0", by decide +kernel⟩, by decide +kernel⟩
  have hfresh : Fresh {} ([] ++ [.arrival (posting "c" nineteenNinety)]) := by decide
  obtain ⟨hnumber, -, hpost⟩ := spellings_interchangeable _ (by decide) "19.9" hspelled
  exact ⟨hspelled, hnumber, hpost (by decide) ["*"] {} [] _ unpriced _ _ hfresh (by decide)
    (by decide) hposts (by rw [parse_nineteenNinety]) horder rfl⟩

end ContributionRegistry.Deployment.Registry
