import ContributionRegistry.Deployment.Registry
import ContributionRegistry.Proofs.Settings.Lists
import ContributionRegistry.Proofs.Text.Bytes
import ContributionRegistry.Service.Branch.Serve
import ContributionRegistry.Service.Registry.Serve
import ContributionRegistry.Settings.Branch
import ContributionRegistry.Settings.Registry
import Mathlib.Control.Monad.Basic

/-!
# Origins granted as they are set

Which pages of other origins a service lets talk to it comes from one setting, a list of origins.
From the text of that setting to the response no origin gains or loses by the way
(`origins_granted_as_set`), and there are three stations on that way.

* **The setting.** The list has the pieces between the commas, blanks taken off and empty ones left
  out; what `Lists` says of it is in `Proofs.Settings.Lists`.
* **The layer** can be set up whatever the list is (`OriginPolicy.exists_grant`): a star among the
  origins grants all, so none gets into a list of origins to be named, where the layer would not
  take it. An origin that no header can hold is left out, and no request can name it.
* **The response** has what the layer adds and nothing else (`values_of_serveUnder`), since the
  services themselves say nothing about origins. That is a matter of each handler (`Reticent`), and
  the handlers are put together from few pieces.

A setting with untidy items is read in `origins_granted_as_set_untidy`.
-/

namespace ContributionRegistry

namespace Http

/-! ### Headers -/

/-- The header that says who is granted. -/
def grantHeader : String := "access-control-allow-origin"

namespace Response

/-- The values of all headers of a name. -/
def values (r : Response) (name : String) : List String :=
  (r.headers.filter fun header ↦ header.1 == name).map Prod.snd

/-- A header that is added comes last among its values. -/
theorem values_withHeader_self (r : Response) (name value : String) :
    (r.withHeader name value).values name = r.values name ++ [value] := by
  have hself : [(name, value)].filter (fun header ↦ header.1 == name) = [(name, value)] :=
    List.filter_cons_of_pos (beq_self_eq_true name)
  rw [values, withHeader, List.filter_append, hself, List.map_append]
  rfl

theorem values_withHeader_of_ne {other name : String} (h : other ≠ name) (r : Response)
    (value : String) : (r.withHeader other value).values name = r.values name := by
  have hother : [(other, value)].filter (fun header ↦ header.1 == name) = [] :=
    List.filter_cons_of_neg (by rwa [beq_iff_eq])
  rw [values, withHeader, List.filter_append, hother, List.append_nil, values]

end Response

/-! ### Texts that can be sent -/

/-- Whether a text can be sent as the value of a header: no byte of it is a control character, but
for tabs. -/
def Sendable (text : String) : Prop :=
  ∀ b ∈ Text.Utf8.encode text.toList, b = 0x09 ∨ 0x20 ≤ b ∧ b ≠ 0x7F

instance (text : String) : Decidable (Sendable text) :=
  inferInstanceAs (Decidable (∀ b ∈ Text.Utf8.encode text.toList, b = 0x09 ∨ 0x20 ≤ b ∧ b ≠ 0x7F))

/-- The bytes of a character beyond ASCII lie beyond ASCII. -/
theorem le_of_mem_encodeChar {c : Char} (hc : 0x80 ≤ c.toNat) {b : UInt8}
    (hb : b ∈ String.utf8EncodeChar c) : 0x80 ≤ b.toNat := by
  have hbyte {n : Nat} (hle : 0x80 ≤ n) (hlt : n < 0x100) (heq : b = UInt8.ofNat n) :
      0x80 ≤ b.toNat := by
    rw [heq, Text.Utf8.toNat_ofNat hlt]
    exact hle
  have hvalid : c.toNat < 0xD800 ∨ 0xDFFF < c.toNat ∧ c.toNat < 0x110000 := c.valid
  rw [Text.Utf8.encodeChar_eq, if_neg (by omega)] at hb
  split at hb
  · simp only [List.mem_cons, List.not_mem_nil, or_false] at hb
    rcases hb with hb | hb <;> exact hbyte (by omega) (by omega) hb
  split at hb
  · simp only [List.mem_cons, List.not_mem_nil, or_false] at hb
    rcases hb with hb | hb | hb <;> exact hbyte (by omega) (by omega) hb
  · simp only [List.mem_cons, List.not_mem_nil, or_false] at hb
    rcases hb with hb | hb | hb | hb <;> exact hbyte (by omega) (by omega) hb

/-- It does not matter whether one looks at characters or at their bytes. -/
theorem forall_mem_encodeChar_iff (c : Char) :
    (∀ b ∈ String.utf8EncodeChar c, b = 0x09 ∨ 0x20 ≤ b ∧ b ≠ 0x7F) ↔
      (c = '\t' || (0x20 ≤ c.toNat && c.toNat ≠ 0x7F)) = true := by
  rcases Nat.lt_or_ge c.toNat 0x80 with hc | hc
  · rw [Text.Utf8.encodeChar_of_lt hc, List.forall_mem_singleton]
    exact Text.Utf8.forall_ascii (P := fun c ↦
      (Text.Utf8.byte c = 0x09 ∨ 0x20 ≤ Text.Utf8.byte c ∧ Text.Utf8.byte c ≠ 0x7F) ↔
        (c = '\t' || (0x20 ≤ c.toNat && c.toNat ≠ 0x7F)) = true) (by decide +kernel) hc
  · refine iff_of_true (fun b hb ↦ .inr ?_) ?_
    · have hle := le_of_mem_encodeChar hc hb
      refine ⟨UInt8.le_iff_toNat_le.2 (Nat.le_trans (by decide) hle), fun heq ↦ ?_⟩
      rw [heq] at hle
      exact absurd hle (by decide)
    · rw [Bool.or_eq_true, Bool.and_eq_true, decide_eq_true_eq, decide_eq_true_eq,
        decide_eq_true_eq]
      exact .inr (by omega)

/-- What the layer takes for a header is what can be sent as one. -/
theorem isHeaderValue_iff (text : String) :
    OriginPolicy.isHeaderValue text = true ↔ Sendable text := by
  rw [OriginPolicy.isHeaderValue, List.all_eq_true, Sendable, Text.Utf8.encode]
  simp only [List.mem_flatMap]
  constructor
  · rintro h b ⟨c, hc, hb⟩
    exact (forall_mem_encodeChar_iff c).2 (h c hc) b hb
  · intro h c hc
    exact (forall_mem_encodeChar_iff c).1 fun b hb ↦ h b ⟨c, hc, hb⟩

/-! ### The layer -/

namespace OriginPolicy

variable {p : OriginPolicy} {origin : Option String}

theorem grant?_of_star (h : "*" ∈ p.origins) : p.grant? = some .all :=
  if_pos (List.contains_iff_mem.2 h)

/-- Without a star, what can be sent is listed. -/
theorem grant?_of_no_star (h : "*" ∉ p.origins) :
    p.grant? = some (.listed (p.origins.filter isHeaderValue)) := by
  have hstar : ¬ (p.origins.contains "*") = true := fun hmem ↦ h (List.contains_iff_mem.1 hmem)
  have hkept : ¬ ((p.origins.filter isHeaderValue).contains "*") = true := fun hmem ↦
    h (List.mem_filter.1 (List.contains_iff_mem.1 hmem)).1
  rw [grant?, if_neg hstar, Grant.ofList, if_neg hkept]

/-- **A layer can be set up for any list.** -/
theorem exists_grant (p : OriginPolicy) : ∃ grant, p.grant? = some grant := by
  by_cases h : "*" ∈ p.origins
  · exact ⟨_, grant?_of_star h⟩
  · exact ⟨_, grant?_of_no_star h⟩

theorem granted?_of_star (h : "*" ∈ p.origins) : p.granted? origin = some "*" := by
  rw [granted?, grant?_of_star h]
  rfl

/-- Without a star, a request is granted the origin that it comes from, if that is listed. -/
theorem granted?_eq_some_iff (h : "*" ∉ p.origins) {o : String} :
    p.granted? origin = some o ↔ origin = some o ∧ o ∈ p.origins ∧ Sendable o := by
  rw [granted?, grant?_of_no_star h, Option.bind_some, Grant.origin?, Option.filter_eq_some_iff,
    List.contains_iff_mem, List.mem_filter, isHeaderValue_iff]

/-- A response gets the grant, if there is one, after what it has. -/
theorem values_mark (request : Request) (response : Response) :
    (p.mark request response).values grantHeader =
      response.values grantHeader ++ (p.granted? (request.header? "origin")).toList := by
  have hvary : (response.withHeader "vary" vary).values grantHeader =
      response.values grantHeader := Response.values_withHeader_of_ne (by decide) ..
  rw [mark]
  rcases p.granted? (request.header? "origin") with _ | o
  · rw [hvary, Option.toList_none, List.append_nil]
  · rw [← hvary]
    exact Response.values_withHeader_self ..

/-- The answer to a question beforehand has the grant alone. -/
theorem values_preflight (request : Request) (allow : Option String) :
    (p.preflight request allow).values grantHeader =
      (p.granted? (request.header? "origin")).toList := by
  have hmark : (p.mark request (Response.bare 200)).values grantHeader =
      (p.granted? (request.header? "origin")).toList := values_mark ..
  rw [← hmark]
  unfold preflight
  cases allow with
  | none =>
    exact (Response.values_withHeader_of_ne (by decide) ..).trans
      (Response.values_withHeader_of_ne (by decide) ..)
  | some methods =>
    exact (Response.values_withHeader_of_ne (by decide) ..).trans
      ((Response.values_withHeader_of_ne (by decide) ..).trans
        (Response.values_withHeader_of_ne (by decide) ..))

end OriginPolicy

end Http

open Http (OriginPolicy Request Response Sendable grantHeader)
open Service
open Settings (BranchSettings Lists RegistrySettings Variables textSetting)

/-! ### Services that leave it to the layer -/

namespace Service

variable {σ : Type}

/-- What is served says nothing about origins. -/
def Reticent (act : Serving σ) : Prop :=
  ∀ s, ∀ response ∈ (act s).1, response.values grantHeader = []

/-- A fixed response says nothing if it has no such header. -/
theorem reticent_serve {response : Response} (h : response.values grantHeader = []) :
    Reticent (serve response : Serving σ) := by
  intro s r hr
  rw [← Option.some.inj hr]
  exact h

/-- An action that is answered says nothing if its faults do not. -/
theorem reticent_answer {ε α : Type} {fault : ε → Response}
    (h : ∀ f, (fault f).values grantHeader = []) (status : Nat) (toJson : α → Json)
    (act : Action σ ε α) : Reticent (answer fault status toJson act) := by
  intro s r hr
  rcases hact : act s with ⟨(f | _) | a, s'⟩ <;> rw [answer, hact] at hr
  · rw [← Option.some.inj hr]
    exact h f
  · cases hr
  · rw [← Option.some.inj hr]
    rfl

theorem reticent_withKey (name : String) (segment : List Char) {act : String → Serving σ}
    (h : ∀ key, Reticent (act key)) : Reticent (withKey name segment act) := by
  rw [withKey]
  cases key? segment with
  | none => exact reticent_serve rfl
  | some key => exact h key

/-- Nor does a choice between handlers that do not. -/
theorem reticent_dispatch (request : Request) {get : Serving σ} {post : Option (Serving σ)}
    (hget : Reticent get) (hpost : ∀ act ∈ post, Reticent act) :
    Reticent (dispatch request get post) := by
  unfold dispatch
  split
  · exact hget
  · intro s r hr
    obtain ⟨response, hresponse, rfl⟩ := Option.map_eq_some_iff.1 hr
    exact hget s response hresponse
  · exact hpost _ rfl
  · exact reticent_serve rfl
  · exact reticent_serve rfl

theorem reticent_registryAnswer {α : Type} (status : Nat) (toJson : α → Json)
    (act : Action σ RegistryFault α) : Reticent (registryAnswer status toJson act) :=
  reticent_answer (fun _ ↦ rfl) status toJson act

theorem reticent_branchAnswer {α : Type} (toJson : α → Json) (act : Action σ BranchFault α) :
    Reticent (branchAnswer toJson act) :=
  reticent_answer (fun _ ↦ rfl) 200 toJson act

theorem reticent_serveContributions (stores : MasterStore σ) (request : Request) :
    Reticent (serveContributions stores request) := by
  unfold serveContributions
  split
  · exact reticent_serve rfl
  · exact reticent_registryAnswer _ _ _

/-- **The registry says nothing about origins** by itself. -/
theorem reticent_serveResource (stores : MasterStore σ) (stamp : Stamp) (uptime : Nat)
    (request : Request) (resource : RegistryResource) :
    Reticent (serveResource stores stamp uptime request resource) := by
  have hread {get : Serving σ} (hget : Reticent get) : Reticent (dispatch request get none) :=
    reticent_dispatch request hget nofun
  have hboth {get post : Serving σ} (hget : Reticent get) (hpost : Reticent post) :
      Reticent (dispatch request get (some post)) := by
    refine reticent_dispatch request hget fun act hact ↦ ?_
    rwa [← Option.some.inj hact]
  cases resource with
  | health => exact hread (reticent_serve rfl)
  | employees => exact hboth (reticent_registryAnswer _ _ _) (reticent_registryAnswer _ _ _)
  | employee segment =>
    exact hread (reticent_withKey _ segment fun _ ↦ reticent_registryAnswer _ _ _)
  | employers => exact hboth (reticent_registryAnswer _ _ _) (reticent_registryAnswer _ _ _)
  | employer segment =>
    exact hread (reticent_withKey _ segment fun _ ↦ reticent_registryAnswer _ _ _)
  | contributions =>
    exact hboth (reticent_serveContributions stores request) (reticent_registryAnswer _ _ _)

/-- **Nor does the branch.** -/
theorem reticent_serveReading (desk : Replica.Desk σ) (lists : Cache.ListCounter σ) (uptime : Nat)
    (resource : BranchResource) : Reticent (serveReading desk lists uptime resource) := by
  cases resource with
  | health => exact reticent_serve rfl
  | employees => exact reticent_branchAnswer _ _
  | employee segment => exact reticent_withKey _ segment fun _ ↦ reticent_branchAnswer _ _
  | contributions segment => exact reticent_withKey _ segment fun _ ↦ reticent_branchAnswer _ _
  | stats => exact reticent_branchAnswer _ _

section

variable {ρ : Type} {policy : OriginPolicy} {methods : ρ → String} {act : ρ → Serving σ}
  {resource : Option ρ} {request : Request} {s : σ}

/-- **Whoever is granted by a response is granted by the layer.** -/
theorem values_of_serveUnder (h : ∀ resource, Reticent (act resource)) {response : Response}
    (hresponse : response ∈ (serveUnder policy methods act resource request s).1) :
    response.values grantHeader = (policy.granted? (request.header? "origin")).toList := by
  unfold serveUnder at hresponse
  split at hresponse
  · rw [← Option.some.inj hresponse]
    exact OriginPolicy.values_preflight ..
  · obtain ⟨own, hown, rfl⟩ := Option.map_eq_some_iff.1 hresponse
    have hsilent : own.values grantHeader = [] := by
      cases resource with
      | none =>
        rw [← Option.some.inj hown]
        rfl
      | some resource => exact h resource s own hown
    rw [OriginPolicy.values_mark, hsilent, List.nil_append]

/-- The layer keeps no response back. -/
theorem abandoned_of_serveUnder (h : (serveUnder policy methods act resource request s).1 = none) :
    request.method ≠ "OPTIONS" ∧ ∃ r, resource = some r ∧ (act r s).1 = none := by
  unfold serveUnder at h
  split at h
  · cases h
  · next hmethod =>
    have hown := Option.map_eq_none_iff.1 h
    cases resource with
    | none => cases hown
    | some resource => exact ⟨hmethod, resource, rfl, hown⟩

end

end Service

/-! ### From the setting to the response -/

/-- A response grants what a text of origins says: with a star among its items, all origins;
otherwise the origin that the request comes from, if it is an item that can be sent, and nobody if
not. -/
structure GrantedAsSet (text : String) (request : Request) (response : Response) : Prop where
  /-- A star in the list grants every origin. -/
  star : Lists text "*" → response.values grantHeader = ["*"]
  /-- Otherwise an origin is named if it asks, is listed and can be sent. -/
  listed_iff : ¬ Lists text "*" → ∀ origin, response.values grantHeader = [origin] ↔
    request.header? "origin" = some origin ∧ Lists text origin ∧ Sendable origin
  /-- Nobody else is told anything. -/
  nobody : ¬ Lists text "*" →
    (¬ ∃ origin, request.header? "origin" = some origin ∧ Lists text origin ∧ Sendable origin) →
      response.values grantHeader = []

/-- A response whose values are the grant of the layer grants as the text says. -/
theorem grantedAsSet_of_values {policy : OriginPolicy} {text : String}
    (horigins : ∀ origin, origin ∈ policy.origins ↔ Lists text origin) {request : Request}
    {response : Response}
    (h : response.values grantHeader = (policy.granted? (request.header? "origin")).toList) :
    GrantedAsSet text request response := by
  have hgranted (hstar : ¬ Lists text "*") (origin : String) :
      policy.granted? (request.header? "origin") = some origin ↔
        request.header? "origin" = some origin ∧ Lists text origin ∧ Sendable origin := by
    rw [OriginPolicy.granted?_eq_some_iff (mt (horigins "*").1 hstar), horigins]
  refine ⟨fun hstar ↦ ?_, fun hstar origin ↦ ?_, fun hstar hnobody ↦ ?_⟩
  · rw [h, OriginPolicy.granted?_of_star ((horigins "*").2 hstar)]
    rfl
  · rw [h, ← hgranted hstar origin]
    exact Option.toList_eq_singleton_iff
  · rcases hnone : policy.granted? (request.header? "origin") with _ | origin
    · rw [h, hnone]
      rfl
    · exact absurd ⟨origin, (hgranted hstar origin).1 hnone⟩ hnobody

/-- **Origins are granted as they are set**, by either service, whatever settings it takes and
whatever request it answers. Its layer can be set up, every response grants what the text of origins
says, and no response is missing but where a resource has none to give. -/
theorem origins_granted_as_set {σ : Type} (vars : Variables) (uptime : Nat) (request : Request)
    (s : σ) :
    (∀ settings, RegistrySettings.read vars = .ok settings →
      ∀ (stores : MasterStore σ) (stamp : Stamp),
      let served := (serveRegistry stores settings.origins stamp uptime request s).1
      (∃ grant, (registryOrigins settings.origins).grant? = some grant) ∧
      (∀ response ∈ served,
        GrantedAsSet (textSetting vars "CORS_ORIGINS" "*") request response) ∧
      (served = none → request.method ≠ "OPTIONS" ∧ ∃ resource,
        RegistryResource.ofPath? request.target.path = some resource ∧
          (serveResource stores stamp uptime request resource s).1 = none)) ∧
    (∀ settings, BranchSettings.read vars = .ok settings →
      ∀ (desk : Replica.Desk σ) (lists : Cache.ListCounter σ),
      let served := (serveBranch desk lists settings.origins uptime request s).1
      (∃ grant, (branchOrigins settings.origins).grant? = some grant) ∧
      (∀ response ∈ served,
        GrantedAsSet (textSetting vars "CORS_ORIGINS" "*") request response) ∧
      (served = none → request.method ≠ "OPTIONS" ∧ ∃ resource,
        BranchResource.ofPath? request.target.path = some resource ∧
          (dispatch request (serveReading desk lists uptime resource) none s).1 = none)) := by
  constructor
  · intro settings hread stores stamp served
    refine ⟨OriginPolicy.exists_grant _, fun response hresponse ↦ ?_, abandoned_of_serveUnder⟩
    have horigins (origin : String) :
        origin ∈ settings.origins ↔ Lists (textSetting vars "CORS_ORIGINS" "*") origin := by
      rw [RegistrySettings.origins_of_read hread, Settings.mem_listSetting_iff]
    exact grantedAsSet_of_values horigins
      (values_of_serveUnder (reticent_serveResource stores stamp uptime request) hresponse)
  · intro settings hread desk lists served
    refine ⟨OriginPolicy.exists_grant _, fun response hresponse ↦ ?_, abandoned_of_serveUnder⟩
    have hreticent (resource : BranchResource) :
        Reticent (dispatch request (serveReading desk lists uptime resource) none) :=
      reticent_dispatch request (reticent_serveReading desk lists uptime resource) nofun
    have horigins (origin : String) :
        origin ∈ settings.origins ↔ Lists (textSetting vars "CORS_ORIGINS" "*") origin := by
      rw [(BranchSettings.of_read hread).2, Settings.mem_listSetting_iff]
    exact grantedAsSet_of_values horigins
      (values_of_serveUnder hreticent hresponse)

/-- Blanks, an empty part and a text that cannot be sent make no difference to an origin in the same
list; and an origin that is in it as a part of another one only is not granted. -/
theorem origins_granted_as_set_untidy :
    let vars : Variables := fun name ↦
      if name = "CORS_ORIGINS" then some " http://a.rw,, *\x7f , http://a.rw:8080" else none
    let asked (origin : String) : Request :=
      { method := "GET", target := ⟨"/health".toList, none⟩, headers := [("origin", origin)] }
    ∃ settings, RegistrySettings.read vars = .ok settings ∧
      ∀ stamp,
        (∃ response ∈ (serveRegistry Deployment.Registry.stores settings.origins stamp 0
            (asked "http://a.rw") {}).1, response.values grantHeader = ["http://a.rw"]) ∧
        ∀ response ∈ (serveRegistry Deployment.Registry.stores settings.origins stamp 0
            (asked "http://a.rw:80") {}).1, response.values grantHeader = [] := by
  intro vars asked
  have hread : RegistrySettings.read vars = .ok
      { address := .v4 ⟨0, 0, 0, 0⟩ 3000, storeBackend := .scylla
        database := { hosts := ["127.0.0.1:9042"] }, logLevel := "info"
        origins := ["http://a.rw", "*\x7f", "http://a.rw:8080"] } := by
    decide +kernel
  have hitem : Lists (textSetting vars "CORS_ORIGINS" "*") "http://a.rw" :=
    Settings.mem_listSetting_iff.1 (by decide +kernel)
  have hstar : ¬ Lists (textSetting vars "CORS_ORIGINS" "*") "*" :=
    mt Settings.mem_listSetting_iff.2 (by decide +kernel)
  have hother : ¬ Lists (textSetting vars "CORS_ORIGINS" "*") "http://a.rw:80" :=
    mt Settings.mem_listSetting_iff.2 (by decide +kernel)
  refine ⟨_, hread, fun stamp ↦ ⟨?_, fun response hresponse ↦ ?_⟩⟩
  · obtain ⟨-, hgranted, hmissing⟩ := (origins_granted_as_set vars 0 (asked "http://a.rw")
      ({} : Deployment.Registry)).1 _ hread Deployment.Registry.stores stamp
    rcases hserved : (serveRegistry Deployment.Registry.stores _ stamp 0 (asked "http://a.rw")
      ({} : Deployment.Registry)).1 with _ | response
    · obtain ⟨-, resource, hresource, hnone⟩ := hmissing hserved
      cases Option.some.inj hresource
      cases hnone
    · refine ⟨response, rfl, ?_⟩
      exact ((hgranted response hserved).listed_iff hstar _).2 ⟨rfl, hitem, by decide +kernel⟩
  · obtain ⟨-, hgranted, -⟩ := (origins_granted_as_set vars 0 (asked "http://a.rw:80")
      ({} : Deployment.Registry)).1 _ hread Deployment.Registry.stores stamp
    refine (hgranted response hresponse).nobody hstar ?_
    rintro ⟨origin, horigin, hlisted, -⟩
    rw [← Option.some.inj horigin] at hlisted
    exact hother hlisted

end ContributionRegistry
