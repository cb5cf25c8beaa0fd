import ContributionRegistry.Proofs.MasterData.Exchanges
import ContributionRegistry.Proofs.Records.ContributionTexts
import ContributionRegistry.Proofs.Records.Intake
import ContributionRegistry.Proofs.Records.Listings

/-!
# Contributions asked for by a query

Asker and registry mean the same by the query for an employee's contributions, and the asker gets
the list that the store of the registry gives for it (`contributions_told`).

Three things come together. The query is read as the RSSB number and nothing else, whatever
characters it has (`Endpoint.read_contributionQuery`). The path leads to the listing of
contributions, so the reply has what the store lists (`reach_contributionsOf`). And the list comes
through the wire as it is, because amounts that have been handed in are read back.

Nothing is asked of the store but that its listings have what it keeps, in order
(`ContributionStore.Lists`). Memory does so, and so does a database.
-/

namespace ContributionRegistry

open Deployment (Line Registry)
open Http (Request Response Target)
open Service
open Web (Url)

/-! ### What a store lists -/

/-- A list that memory gives is the one on the shelf. -/
theorem Deployment.Registry.eq_of_find_contributions {filter : ContributionFilter}
    {r r' : Registry} {list : List Contribution}
    (h : Registry.stores.contributions.find filter r = (.ok list, r')) :
    list = r.contributions.shelf.contributions filter := by
  have hlist : (Attempt.ofExcept (r.contributions.list fun s ↦ s.contributions filter).1 :
      Attempt StoreError (List Contribution)) = .ok list := congrArg Prod.fst h
  have hok := Attempt.eq_ok_of_ofExcept hlist
  unfold SwitchedShelf.list at hok
  simp only at hok
  split at hok
  · cases hok
  · exact (Except.ok.inj hok).symm

/-- A registry in memory lists the contributions on its shelf. -/
theorem Deployment.Registry.lists_contributions :
    Registry.stores.contributions.Lists fun r ↦ r.contributions.shelf.records where
  perm filter r list r' h := by
    rw [eq_of_find_contributions h]
    exact r.contributions.shelf.perm_contributions filter
  pairwise filter r list r' h := by
    rw [eq_of_find_contributions h]
    exact r.contributions.shelf.pairwise_contributions filter

namespace Contribution

/-- A contribution that was handed in and passed the checks. -/
def Posted (c : Contribution) : Prop :=
  ∃ (input : NewContribution) (stamp : Stamp), input.validate = .ok () ∧ c = input.enter stamp

/-- Amounts that have been handed in are payable. -/
theorem Posted.payable {c : Contribution} (h : c.Posted) : c.amount.Payable := by
  obtain ⟨input, stamp, hvalid, rfl⟩ := h
  exact (NewContribution.of_validate hvalid).2.2

/-- A list of payable contributions is decoded from the tree that it is written as. -/
theorem listOfJson_listToJson {cs : List Contribution} (h : ∀ c ∈ cs, c.amount.Payable) :
    listOfJson (listToJson cs) = .ok cs := by
  have hreadable : ∀ c ∈ cs, c.amountReadable = true :=
    fun c hc ↦ decide_eq_true (h c hc).lt_readBound
  show (cs.map toJson).mapM ofJson = .ok cs
  rw [mapM_ofJson_map_toJson, firstUnreadable?_eq_none_iff.2 hreadable]

end Contribution

/-! ### A registry at the other end -/

namespace Deployment

/-- A network with a registry of any stores at the other end. -/
def reach {σ : Type} (stores : MasterStore σ) (origins : List String) : Network σ := fun url s ↦
  match Line.requestFor? url with
  | none => (.error (.unreachable "no request"), s)
  | some request =>
    match serveRegistry stores origins Line.noStamp 0 request s with
    | (some response, s) => (.ok (Line.replyOf response), s)
    | (none, s) => (.error (.unreachable "connection closed"), s)

/-- The registry at the end of a line is asked in this way. -/
theorem Line.ask_eq : Line.ask = reach Registry.stores ["*"] := by
  funext url r
  unfold Line.ask reach
  cases Line.requestFor? url with
  | none => rfl
  | some request =>
    dsimp only
    generalize serveRegistry Registry.stores ["*"] Line.noStamp 0 request r = served
    obtain ⟨_ | _, _⟩ := served <;> rfl

end Deployment

namespace Endpoint

/-- The names of the listing of contributions. -/
def contributionNames : List (List Char) := ["api".toList, "v1".toList, "contributions".toList]

theorem contributionNames_plain :
    ∀ name ∈ contributionNames, name ≠ [] ∧ ∀ c ∈ name, c.isAlphanum = true :=
  Url.plain_of_all (by decide)

variable {base : Url} {key : String}

/-- The query for the contributions of an employee. -/
def contributionQuery (key : String) : List Char :=
  Web.Form.encodePair numberName.toList key.toList

theorem path_contributionsOf (base : Url) (key : String) :
    (contributionsOf base key).path = base.trunk ++ contributionNames :=
  Url.path_extend base (by decide : contributionNames ≠ []) contributionNames_plain

theorem query_contributionsOf (hquery : base.query.getD [] = []) :
    (contributionsOf base key).query = some (contributionQuery key) :=
  Url.query_withPair hquery

/-- The request that the query is sent with. -/
def contributionRequest (key : String) : Request where
  method := "GET"
  target := ⟨Url.spellPath contributionNames, some (contributionQuery key)⟩

/-- The request for the contributions of an employee, unless it is too long. -/
theorem requestFor?_contributionsOf (hroot : base.trunk = []) (hquery : base.query.getD [] = []) :
    Line.requestFor? (contributionsOf base key) =
      if (contributionsOf base key).size ≤ Target.largestSize then
        some (contributionRequest key) else none := by
  have hpath : (contributionsOf base key).path = contributionNames := by
    rw [path_contributionsOf, hroot]
    rfl
  have hquery' : (contributionsOf base key).query = some (contributionQuery key) :=
    query_contributionsOf hquery
  have hchars : ∀ segment ∈ contributionNames, ∀ c ∈ segment, Target.PathChar c :=
    fun segment hsegment c hc ↦
      Target.pathChar_of_isAlphanum ((contributionNames_plain segment hsegment).2 c hc)
  rw [Line.requestFor?_eq (by rw [hpath]; decide) (by rw [hpath]; exact hchars)
    (by rw [hquery']; exact Target.queryChar_of_mem_encodePair _ _), hpath, hquery']
  rfl

/-- **The query is read as the RSSB number** and as nothing else. -/
theorem read_contributionQuery (path : List Char) (key : String) :
    ListingQuery.read ⟨path, some (contributionQuery key)⟩ = .ok { rssbNumber := some key } := by
  have hpairs : Web.Form.decode (Text.Utf8.encode (contributionQuery key)) =
      [(numberName, key)] := by
    rw [contributionQuery, Web.Form.decode_encodePair, String.ofList_toList, String.ofList_toList]
  show (Web.Form.decode (Text.Utf8.encode (contributionQuery key))).foldlM ListingQuery.add {} = _
  rw [hpairs]
  rfl

theorem ofParams_key (hkey : key ≠ "") :
    ContributionFilter.ofParams (some key) none none = .ok (.byRssbNumber key) := by
  have hnamed : ContributionFilter.named (some key) = some key := by
    unfold ContributionFilter.named
    split
    · next h => exact absurd (Option.some.inj h) hkey
    · rfl
  rw [ContributionFilter.ofParams, hnamed]

end Endpoint

/-! ### What the asker gets -/

namespace Deployment

open Endpoint (contributionRequest contributionsOf requestFor?_contributionsOf)

section

variable {σ : Type} {stores : MasterStore σ} {base : Url} {key : String}

/-- What the registry makes of the query: it serves what its store lists. -/
theorem serveRegistry_contributionRequest (stores : MasterStore σ) (origins : List String)
    (hkey : key ≠ "") (s : σ) :
    let found := stores.contributions.find (.byRssbNumber key) s
    serveRegistry stores origins Line.noStamp 0 (contributionRequest key) s =
      ((respond RegistryFault.response 200 Contribution.listToJson
          (found.1.restate RegistryFault.ofStore)).map
        ((registryOrigins origins).mark (contributionRequest key)), found.2) := by
  intro found
  have hresource : RegistryResource.ofPath? (Url.spellPath Endpoint.contributionNames) =
      some .contributions := by decide
  have hserves : serveContributions stores (contributionRequest key) =
      registryAnswer 200 Contribution.listToJson
        (stored (stores.contributions.find (.byRssbNumber key))) := by
    rw [serveContributions, show ListingQuery.read (contributionRequest key).target = _ from
      Endpoint.read_contributionQuery _ key]
    show registryAnswer 200 Contribution.listToJson (listContributions stores
      (ContributionFilter.ofParams (some key) none none)) = _
    rw [Endpoint.ofParams_key hkey]
    rfl
  rw [serveRegistry_get stores origins Line.noStamp 0 rfl hresource]
  show ((serveContributions stores (contributionRequest key) s).1.map _,
    (serveContributions stores (contributionRequest key) s).2) = _
  rw [hserves]
  rfl

/-- What the registry replies to the query. -/
theorem reach_contributionsOf (origins : List String) (hroot : base.trunk = [])
    (hquery : base.query.getD [] = []) (hkey : key ≠ "")
    (hsize : (contributionsOf base key).size ≤ Target.largestSize)
    (s : σ) :
    reach stores origins (contributionsOf base key) s =
      match stores.contributions.find (.byRssbNumber key) s with
      | (.ok list, s') => (.ok (Line.replyOf ((registryOrigins origins).mark
          (contributionRequest key) (.ofJson 200 (Contribution.listToJson list)))), s')
      | (.error (.refused e), s') => (.ok (Line.replyOf ((registryOrigins origins).mark
          (contributionRequest key) (RegistryFault.ofStore e).response)), s')
      | (.error .abandoned, s') => (.error (.unreachable "connection closed"), s') := by
  rw [reach, requestFor?_contributionsOf hroot hquery, if_pos hsize]
  dsimp only
  rw [serveRegistry_contributionRequest stores origins hkey]
  generalize stores.contributions.find (.byRssbNumber key) s = found
  obtain ⟨(e | _) | list, s'⟩ := found <;> rfl

/-- A failure of the store is told by a status of failure. -/
theorem status_ofStore (e : StoreError) : 400 ≤ (RegistryFault.ofStore e).response.status := by
  show 400 ≤ (RegistryFault.ofStore e).status
  cases e <;> simp [RegistryFault.ofStore, RegistryFault.status]

/-- A reply of status 200 has the list that the store gave. -/
theorem listed_of_reply {origins : List String} (hroot : base.trunk = [])
    (hquery : base.query.getD [] = []) (hkey : key ≠ "") {s s' : σ} {reply : Reply}
    (hasked : (reach stores origins).put (contributionsOf base key) s = (.ok reply, s'))
    (hstatus : reply.status = 200) :
    ∃ list response, stores.contributions.find (.byRssbNumber key) s = (.ok list, s') ∧
      reply = Line.replyOf response ∧ response.status = 200 ∧
      response.body = (Contribution.listToJson list).render := by
  have hreach : reach stores origins (contributionsOf base key) s = (.ok reply, s') := by
    unfold Network.put at hasked
    split at hasked
    · exact hasked
    · cases hasked
  have hsize : (contributionsOf base key).size ≤ Target.largestSize := by
    by_contra hlarge
    rw [reach, requestFor?_contributionsOf hroot hquery, if_neg hlarge] at hreach
    cases hreach
  rw [reach_contributionsOf origins hroot hquery hkey hsize] at hreach
  -- a store that fails has a status of failure, and one that is abandoned sends no reply
  rcases hfind : stores.contributions.find (.byRssbNumber key) s with ⟨(e | _) | list, s''⟩
  · rw [hfind] at hreach
    cases hreach
    have hfault := status_ofStore e
    change ((registryOrigins origins).mark _ (RegistryFault.ofStore e).response).status = 200
      at hstatus
    rw [status_mark] at hstatus
    omega
  · rw [hfind] at hreach
    cases hreach
  · rw [hfind] at hreach
    cases hreach
    exact ⟨list, _, rfl, rfl, status_mark .., body_mark ..⟩

/-- A list of contributions that were handed in comes through the wire as it is. -/
theorem read_listToJson {name : String} {response : Response} {list : List Contribution}
    (hposted : ∀ c ∈ list, c.Posted) (hstatus : response.status = 200)
    (hbody : response.body = (Contribution.listToJson list).render) :
    Client.read Contribution.listOfJson name (Line.replyOf response) = .ok list := by
  have hpayable : ∀ c ∈ list, c.amount.Payable := fun c hc ↦ (hposted c hc).payable
  rw [Client.read_of_success hstatus hbody (Contribution.isPlain_listToJson list),
    Contribution.listOfJson_listToJson hpayable]
  rfl

/-- **The asker gets the list that the store gives.** For the base URL of a registry and every key
that is not empty, the query is read as the key and as nothing else, and the filter is the one for
this key. If what the registry replies has the status 200, the asker gets a list; it is the one that
the store gave, so it has just the contributions with the key that the store keeps, in the order of
listings. And there is such a reply whenever the store gives a list and the question can be put at
all. -/
theorem contributions_told {σ : Type} {stores : MasterStore σ} {kept : σ → List Contribution}
    (hstore : stores.contributions.Lists kept) (origins : List String) {base : Url} {key : String}
    (hroot : base.trunk = []) (hquery : base.query.getD [] = []) (hkey : key ≠ "") :
    let url := contributionsOf base key
    let asked := (reach stores origins).put url
    (∃ query, url.query = some query ∧ (∀ path,
      ListingQuery.read ⟨path, some query⟩ = .ok { rssbNumber := some key })) ∧
    (∀ request, Line.requestFor? url = some request →
      ListingQuery.read request.target = .ok { rssbNumber := some key }) ∧
    ContributionFilter.ofParams (some key) none none = .ok (.byRssbNumber key) ∧
    (∀ s reply s', (∀ c ∈ kept s, c.Posted) → asked s = (.ok reply, s') → reply.status = 200 →
      ∃ list, (Client.masterData (reach stores origins) base).contributions key s =
          (.ok list, s') ∧
        stores.contributions.find (.byRssbNumber key) s = (.ok list, s') ∧
        list.Perm ((kept s).filter fun c ↦ c.rssbNumber == key) ∧
        list.Pairwise fun a b ↦ a.listedBefore b = true) ∧
    (∀ s list s', Network.speaks base = true → url.size ≤ Target.largestSize →
      stores.contributions.find (.byRssbNumber key) s = (.ok list, s') →
      ∃ reply, asked s = (.ok reply, s') ∧ reply.status = 200) := by
  intro url asked
  refine ⟨⟨_, Endpoint.query_contributionsOf hquery,
    fun path ↦ Endpoint.read_contributionQuery path key⟩, fun request hrequest ↦ ?_,
    Endpoint.ofParams_key hkey, fun s reply s' hposted hasked hstatus ↦ ?_,
    fun s list s' hspeaks hsize hfind ↦ ?_⟩
  · rw [requestFor?_contributionsOf hroot hquery] at hrequest
    split at hrequest
    · cases hrequest
      exact Endpoint.read_contributionQuery _ key
    · cases hrequest
  -- a reply with the status 200 has a list of the store in its body; it was posted, so it is read
  -- back
  · obtain ⟨list, response, hfind, rfl, hresponse, hbody⟩ :=
      listed_of_reply hroot hquery hkey hasked hstatus
    have hperm := hstore.perm _ _ _ _ hfind
    have hfetch : (Client.masterData (reach stores origins) base).contributions key s =
        (Client.read Contribution.listOfJson (Endpoint.contributions base).text
          (Line.replyOf response), s') :=
      Client.fetch_of_reply hasked (by rw [hstatus]; rfl)
    have hread : Client.read Contribution.listOfJson (Endpoint.contributions base).text
        (Line.replyOf response) = .ok list :=
      read_listToJson (fun c hc ↦ hposted c (List.mem_filter.1 (hperm.mem_iff.1 hc)).1)
        hresponse hbody
    exact ⟨list, by rw [hfetch, hread], hfind, hperm, hstore.pairwise _ _ _ _ hfind⟩
  · refine ⟨Line.replyOf ((registryOrigins origins).mark (contributionRequest key)
      (.ofJson 200 (Contribution.listToJson list))), ?_, status_mark ..⟩
    show (reach stores origins).put url s = _
    rw [Network.put, if_pos (show Network.speaks url = true from hspeaks),
      reach_contributionsOf origins hroot hquery hkey hsize, hfind]

end

/-- A contribution of one franc. -/
def oneFranc (rssbNumber : String) : NewContribution where
  period := (Period.ofYearMonth? 2025 1).get rfl
  rssbNumber := rssbNumber
  matricule := "3B"
  amount := (Amount.ofMinorUnits? 100).get rfl

/-- A registry with a contribution for each of two employees. -/
def twoEmployees : Registry where
  contributions := { shelf := ⟨[(oneFranc "7A").enter ⟨"a", .startOf .epoch⟩,
    (oneFranc "8B").enter ⟨"b", .startOf .epoch⟩], by decide⟩ }

/-- One of them is told of when asked for, the other one is not. -/
theorem contributions_told_one :
    let base := Url.ofHost "upstream"
    ∃ list s', (Client.masterData (reach Registry.stores ["*"]) base).contributions "7A"
        twoEmployees = (.ok list, s') ∧
      list.Perm [(oneFranc "7A").enter ⟨"a", .startOf .epoch⟩] := by
  intro base
  have hroot : base.trunk = [] := by decide
  have hquery : base.query.getD [] = [] := rfl
  have hkey : "7A" ≠ "" := by decide
  obtain ⟨-, -, -, htold, hreplies⟩ :=
    contributions_told Registry.lists_contributions ["*"] hroot hquery hkey
  have hposted : ∀ c ∈ twoEmployees.contributions.shelf.records, c.Posted := by
    refine List.forall_mem_cons.2 ⟨⟨oneFranc "7A", _, by decide, rfl⟩, ?_⟩
    exact List.forall_mem_singleton.2 ⟨oneFranc "8B", _, by decide, rfl⟩
  obtain ⟨reply, hasked, hstatus⟩ := hreplies twoEmployees _ _ (by decide) (by decide) rfl
  obtain ⟨list, hlist, -, hperm, -⟩ := htold twoEmployees reply _ hposted hasked hstatus
  exact ⟨list, _, hlist, hperm⟩

end Deployment

end ContributionRegistry
