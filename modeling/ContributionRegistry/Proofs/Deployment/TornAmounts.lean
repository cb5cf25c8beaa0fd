import ContributionRegistry.Cache.ContributionLists
import ContributionRegistry.Database.Tables
import ContributionRegistry.MasterData.Client
import ContributionRegistry.Proofs.Registry.PostedAmounts

/-!
# Who is abandoned for a torn amount

Amounts are read from the bodies of posts, from what master data replies, from lists in the cache
and from rows of the database. Nothing but a torn amount abandons any of these, and any torn amount
does that is come to; there is no answer then, no failure to report and no other source to turn to
(`torn_amounts_abandon`). Every other text is an amount or refused as one, for each reader in its
own way.

That an amount is *come to* is a matter of the reader: a decoder stops at the first problem, so a
torn amount behind another problem does no harm. What it takes is stated on the trees that are
decoded (`Priced.Torn`, `Priced.ListTorn`), and for rows on the texts in their cells.

`torn_amounts_abandon_accent` has the text `1.2é` before each of the readers.
-/

namespace ContributionRegistry.Deployment

open Http (Request)
open Registry (Arrival posting status?)
open Service

/-- Decoding is abandoned where the value is; what follows the value does not come into it. -/
theorem decode_eq_abandoned_iff {α : Type} {decodeValue : Json → Json.Decoded α}
    {src : Json.Source} : Json.decode decodeValue src = .error .abandoned ↔
      decodeValue (Json.parse src).value = .error .abandoned := by
  constructor
  · intro h
    rcases Json.bind_eq_abandoned h with h | ⟨_, -, h⟩
    · exact h
    · split at h <;> cases h
  · intro h
    rw [Json.decode, h]
    rfl

/-! ### Posts -/

section

variable {α ρ : Type} [Keyed ρ] {origins : List String} {a : Arrival} {r : Registry}

/-- Which bodies abandon their reader. -/
theorem decodeBody_eq_abandoned_iff {request : Request} :
    decodeBody NewContribution.ofJson request = .error .abandoned ↔
      saysJson request = true ∧ request.body.length ≤ bodyBound ∧
        pricedNewContribution.Torn (Json.parse (Text.Utf8.decode request.body)).value := by
  rw [← Priced.ofJson_eq_abandoned_iff, Priced.ofJson_newContribution, ← decode_eq_abandoned_iff,
    decodeBody]
  by_cases hjson : saysJson request = true
  · rw [hjson, if_neg (by decide)]
    by_cases hlength : bodyBound < request.body.length
    · rw [if_pos hlength]
      exact iff_of_false (Json.refuse_ne_abandoned _) fun h ↦ absurd h.2.1 (not_le.2 hlength)
    · rw [if_neg hlength, Json.restate_eq_abandoned_iff]
      exact ⟨fun h ↦ ⟨rfl, not_lt.1 hlength, h⟩, fun h ↦ h.2.2⟩
  · rw [Bool.eq_false_iff.2 hjson, if_pos (by decide)]
    exact iff_of_false (Json.refuse_ne_abandoned _) fun h ↦ absurd h.1 (by decide)

/-- A post is abandoned if decoding its body is, and then it changes nothing. -/
theorem Registry.Book.Posted.eq_none_iff {book : Registry.Book α ρ} {stamp : Stamp}
    {request : Request} {response : Option Http.Response} {r' : Registry}
    (h : book.Posted stamp request r response r') :
    (status? response = none ↔ decodeBody book.decode request = .error .abandoned) ∧
      (status? response = none → r' = r) := by
  cases h with
  | abandoned body => exact ⟨iff_of_true rfl body, fun _ ↦ rfl⟩
  | undecoded body | invalid body | failed body | conflict body | created body =>
    exact ⟨iff_of_false (Option.some_ne_none _) (by rw [body]; intro h; cases h),
      fun h ↦ absurd h (Option.some_ne_none _)⟩

/-- Which posts are abandoned, and that they leave the registry as it was. -/
theorem Registry.Book.serve_eq_none_iff (book : Registry.Book α ρ)
    (hmethod : a.request.method = "POST") (hresource : a.resource? = some book.resource) :
    ((Registry.serve origins a r).1 = none ↔
      decodeBody book.decode a.request = .error .abandoned) ∧
    ((Registry.serve origins a r).1 = none → (Registry.serve origins a r).2 = r) := by
  have hnot : a.request.method ≠ "OPTIONS" := ne_of_eq_of_ne hmethod (by decide)
  obtain ⟨hstatus, -, hleft⟩ :=
    Registry.serveRegistry_eq origins a.stamp a.uptime r hnot hresource
  rw [book.serves a.stamp a.uptime a.request hmethod] at hstatus hleft
  have hnone : (Registry.serve origins a r).1 = none ↔
      status? (Registry.serve origins a r).1 = none := Option.map_eq_none_iff.symm
  rw [hnone, Registry.serve, hstatus, hleft]
  exact (book.posted a.stamp a.request r).eq_none_iff

end

/-! ### Lists -/

/-- Which replies abandon their reader. -/
theorem read_eq_abandoned_iff {name : String} {reply : Reply} :
    Client.read Contribution.listOfJson name reply = .error .abandoned ↔
      reply.isSuccess = true ∧ ∃ bytes, reply.body = .ok bytes ∧
        pricedContribution.ListTorn (Json.parse (Text.Utf8.decode bytes)).value := by
  rw [Client.read]
  by_cases hsuccess : reply.isSuccess = true
  · rw [if_pos hsuccess]
    rcases hbody : reply.body with fault | bytes
    · exact iff_of_false (Json.refuse_ne_abandoned _) (by rintro ⟨-, _, hbytes, -⟩; cases hbytes)
    · simp only
      rw [Json.restate_eq_abandoned_iff, decode_eq_abandoned_iff, Contribution.listOfJson,
        ← Priced.ofJson_contribution, Priced.toList_eq_abandoned_iff]
      exact ⟨fun h ↦ ⟨hsuccess, bytes, rfl, h⟩, by rintro ⟨-, _, ⟨⟩, h⟩; exact h⟩
  · rw [if_neg hsuccess]
    exact iff_of_false (Json.refuse_ne_abandoned _) fun h ↦ hsuccess h.1

/-- Which cached texts abandon their reader. -/
theorem decodeList_eq_abandoned_iff {text : String} :
    TextCache.decodeList text = .error .abandoned ↔
      pricedContribution.ListTorn (Json.parse (Json.Source.ofText text.toList)).value := by
  rw [TextCache.decodeList, Json.restate_eq_abandoned_iff, Json.decodeText,
    decode_eq_abandoned_iff, Contribution.listOfJson, ← Priced.ofJson_contribution,
    Priced.toList_eq_abandoned_iff]

/-- A lookup that finds such a list does not go on to master data. -/
theorem fetch_of_listTorn {σ : Type} {d : Cache.ListCounter σ} {key text : String} {s s' : σ}
    (hget : d.cache.get (Cache.listKey key) s = (.ok (some text), s'))
    (htorn : pricedContribution.ListTorn (Json.parse (Json.Source.ofText text.toList)).value) :
    Cache.fetch d key s = (.error .abandoned, s') := by
  have hread : d.cache.getList (Cache.listKey key) s = (.error .abandoned, s') := by
    rw [TextCache.getList, Action.next, hget]
    simp only [TextCache.decodeFound, decodeList_eq_abandoned_iff.2 htorn]
    rfl
  simp only [Cache.fetch, Action.finish, Cache.Lookup.finish, Cache.Lookup.step, hread]
  rfl

/-! ### Rows -/

/-- Which rows abandon their reader. -/
theorem contributionOfRow_eq_abandoned_iff {row : Database.Row} :
    Database.contributionOfRow row = .error .abandoned ↔
      ∃ texts period, Database.contributionTextsOfRow row = .ok texts ∧
        Period.parse texts.period = .ok period ∧ Amount.Torn texts.amount := by
  rw [Database.contributionOfRow]
  rcases Database.contributionTextsOfRow row with reason | texts
  · exact iff_of_false (Json.refuse_ne_abandoned _) (by rintro ⟨_, _, h, -⟩; cases h)
  · simp only
    rw [Json.restate_eq_abandoned_iff, Database.ContributionTexts.contribution]
    rcases hperiod : Period.parse texts.period with reason | period
    · refine iff_of_false nofun ?_
      rintro ⟨_, _, ⟨⟩, h, -⟩
      cases hperiod.symm.trans h
    · constructor
      · intro h
        rcases Json.bind_eq_abandoned h with h | ⟨_, -, h⟩
        · cases h
        · rcases Json.bind_eq_abandoned h with h | ⟨_, -, h⟩
          · exact ⟨texts, period, rfl, hperiod,
              Amount.parse_eq_abandoned_iff.1 (Json.restate_eq_abandoned_iff.1 h)⟩
          · cases h
      · rintro ⟨_, _, ⟨⟩, -, htorn⟩
        rw [Amount.parse_eq_abandoned_iff.2 htorn]
        rfl

/-! ### All readers -/

/-- **Who is abandoned for a torn amount, and that nobody is for another one.** A text that is not
torn is an amount or refused as one. A post is abandoned, and changes nothing, exactly if its body
is read at all and has a torn amount. What master data replies, a list in the cache and a row
abandon their readers exactly if they have a torn amount with nothing refused before it, and a
lookup that finds such a list in the cache is abandoned with it. -/
theorem torn_amounts_abandon (raw : String) (value : Json) (origins : List String) (a : Arrival)
    (r : Registry) (name : String) (reply : Reply) (text : String) (row : Database.Row) :
    (Amount.parse raw = .error .abandoned ↔ Amount.Torn raw) ∧
    (¬Amount.Torn raw →
      (∃ amount, Amount.parse raw = .ok amount) ∨ Amount.parse raw = .refuse ⟨raw⟩) ∧
    (Json.toAmount value = .error .abandoned ↔
      ∃ torn, value = Json.ofText torn ∧ Amount.Torn torn) ∧
    (a.request.method = "POST" → a.resource? = some .contributions →
      ((Registry.serve origins a r).1 = none ↔
        saysJson a.request = true ∧ a.request.body.length ≤ bodyBound ∧
          pricedNewContribution.Torn (Json.parse (Text.Utf8.decode a.request.body)).value) ∧
      ((Registry.serve origins a r).1 = none → (Registry.serve origins a r).2 = r)) ∧
    (Client.read Contribution.listOfJson name reply = .error .abandoned ↔
      reply.isSuccess = true ∧ ∃ bytes, reply.body = .ok bytes ∧
        pricedContribution.ListTorn (Json.parse (Text.Utf8.decode bytes)).value) ∧
    (TextCache.decodeList text = .error .abandoned ↔
      pricedContribution.ListTorn (Json.parse (Json.Source.ofText text.toList)).value) ∧
    (∀ {σ : Type} (d : Cache.ListCounter σ) (key : String) (s s' : σ),
      d.cache.get (Cache.listKey key) s = (.ok (some text), s') →
      TextCache.decodeList text = .error .abandoned →
      Cache.fetch d key s = (.error .abandoned, s')) ∧
    (Database.contributionOfRow row = .error .abandoned ↔
      ∃ texts period, Database.contributionTextsOfRow row = .ok texts ∧
        Period.parse texts.period = .ok period ∧ Amount.Torn texts.amount) := by
  refine ⟨Amount.parse_eq_abandoned_iff, Amount.read_or_refused, Json.toAmount_eq_abandoned_iff,
    fun hmethod hresource ↦ ?_, read_eq_abandoned_iff, decodeList_eq_abandoned_iff,
    fun d key s s' hget htorn ↦ ?_, contributionOfRow_eq_abandoned_iff⟩
  · obtain ⟨hnone, hleft⟩ := Registry.contributionBook.serve_eq_none_iff hmethod hresource
    exact ⟨hnone.trans decodeBody_eq_abandoned_iff, hleft⟩
  · exact fetch_of_listTorn hget (decodeList_eq_abandoned_iff.1 htorn)

theorem torn_accent : Amount.Torn "1.2é" :=
  ⟨['1'], ['2', 'é'], by decide, by decide, ['2'], 'é', [], rfl, by decide, by decide⟩

/-- A record with the text for its amount, and nothing else. -/
def accented : Json := (Json.Frame.object [] []).plug "amount" (Json.ofText "1.2é")

/-- All of them are abandoned for an amount with an accent on its last digit. -/
theorem torn_amounts_abandon_accent :
    let post := posting "c" "\x7b\"amount\":\"1.2é\"\x7d"
    let list := "[\x7b\"amount\":\"1.2é\"\x7d]"
    let row := [.value (.text "c"), .value (.text "2024-01"), .value (.text "1"),
      .value (.text "2"), .value (.text "1.2é"), .value (.timestamp 0), .value (.timestamp 0)]
    Amount.parse "1.2é" = .error .abandoned ∧
    (Registry.serve ["*"] post {}).1 = none ∧ (Registry.serve ["*"] post {}).2 = {} ∧
    Client.read Contribution.listOfJson "" ⟨200, none, .ok (Text.Utf8.encode list.toList)⟩ =
      .error .abandoned ∧
    TextCache.decodeList list = .error .abandoned ∧
    Database.contributionOfRow row = .error .abandoned := by
  intro post list row
  have hpost : (Json.parse (Text.Utf8.decode
      (posting "c" "\x7b\"amount\":\"1.2é\"\x7d").request.body)).value = accented := by
    have htext : "\x7b\"amount\":\"1.2é\"\x7d".toList = Json.write accented := by decide +kernel
    rw [posting, Registry.arriving, Text.Utf8.decode_encode, htext]
    exact congrArg Json.Document.value (Json.parse_write rfl)
  have hlist : pricedContribution.ListTorn (Json.parse (Json.Source.ofText list.toList)).value := by
    have htext : list.toList = Json.write (.array [accented]) := by decide +kernel
    rw [htext, Json.parse_write rfl]
    exact ⟨[], _, [], rfl, List.forall_mem_nil _, .object [] [], "1.2é", pricedContribution.mem,
      ⟨[], rfl, rfl⟩, rfl, torn_accent⟩
  obtain ⟨hraw, -, -, hserve, hreply, htext, -, hrow⟩ := torn_amounts_abandon "1.2é" .null ["*"]
    (posting "c" "\x7b\"amount\":\"1.2é\"\x7d") {} ""
    ⟨200, none, .ok (Text.Utf8.encode list.toList)⟩ list row
  obtain ⟨hnone, hleft⟩ := hserve rfl (by decide)
  have hserved := hnone.2 ⟨by decide, by decide, .object [] [], "1.2é", pricedNewContribution.mem,
    ⟨[], rfl, rfl⟩, hpost, torn_accent⟩
  refine ⟨hraw.2 torn_accent, hserved, hleft hserved, hreply.2 ⟨rfl, _, rfl, ?_⟩, htext.2 hlist,
    hrow.2 ⟨_, _, rfl, rfl, torn_accent⟩⟩
  rw [Text.Utf8.decode_encode]
  exact hlist

/-- Not every text is an amount or refused as one. -/
theorem accent_abandons :
    ¬∀ raw, (∃ amount, Amount.parse raw = .ok amount) ∨ Amount.parse raw = .refuse ⟨raw⟩ := by
  intro h
  have habandoned : Amount.parse "1.2é" = .error .abandoned := by decide +kernel
  rcases h "1.2é" with ⟨amount, hamount⟩ | hrefused
  · cases habandoned.symm.trans hamount
  · cases habandoned.symm.trans hrefused

end ContributionRegistry.Deployment
