import ContributionRegistry.Proofs.MasterData.EmployeeUrls
import ContributionRegistry.Proofs.Records.EmployeeTexts
import ContributionRegistry.Proofs.Records.Intake
import ContributionRegistry.Proofs.Registry.Answers

/-!
# Employees asked for over the network

What a branch is told when it asks the registry for an employee. Whatever the key, an employee that
it is told of stands on the registry's shelf (`Line.employee_of_told`): the URLs of odd keys lead to
the list of employees, which is not read as an employee, to nothing, or to another employee. An
employee that stands there is told of, if registry and network work (`Line.employee_of_steady`),
because the keys of the registry are letters and digits.

The way there has three parts. `EmployeeAnswer` is what may be in a response at all, and every
resource that such a URL can lead to gives one (`serve_employee`). The response is followed by the
client, who may be sent elsewhere with the question, to the same kind of URL. What it reads at last
is an employee only if the body was written from one (`read_employee`).

Asking changes nothing on the shelves, wherever the asker is sent (`Line.unchanged_fetch`).
-/

namespace ContributionRegistry.Deployment

open Endpoint (employee employeeNames employeeRequest)
open Http (Request Response Target)
open Registry (Same)
open Service
open Web (Url escape)

namespace Registry

/-! ### What the registry responds -/

/-- A response to a question about an employee: a fault, the list of employees, or one of them. -/
inductive EmployeeAnswer (r : Registry) (response : Response) : Prop where
  | fault (status : 400 ≤ response.status)
  | listed (es : List Employee) (status : response.status = 200)
    (body : response.body = (listJson Employee.toJson es).render)
  | found (key : String) (e : Employee) (found : r.employees.shelf.find? key = some e)
    (status : response.status = 200) (body : response.body = e.toJson.render)

variable {r : Registry}

/-- What is said about origins does not make it another answer. -/
theorem EmployeeAnswer.mark {response : Response} (h : EmployeeAnswer r response)
    (p : Http.OriginPolicy) (request : Request) : EmployeeAnswer r (p.mark request response) := by
  cases h with
  | fault status => exact .fault (by rwa [status_mark])
  | listed es status body =>
    exact .listed es ((status_mark ..).trans status) ((body_mark ..).trans body)
  | found key e found status body =>
    exact .found key e found ((status_mark ..).trans status) ((body_mark ..).trans body)

theorem status_response (f : RegistryFault) : 400 ≤ f.response.status := by
  show 400 ≤ f.status
  cases f <;> simp [RegistryFault.status]

/-- The answer about the employee under a key. -/
def single (key : String) : Serving Registry :=
  registryAnswer 200 Employee.toJson (lookup "employee" stores.employees key)

theorem single_cases (key : String) (r : Registry) :
    ∃ response r', single key r = (some response, r') ∧ EmployeeAnswer r response := by
  rcases hfind : r.employees.find key with ⟨found, s⟩
  obtain ⟨-, -, hfound⟩ := SwitchedShelf.find_effect hfind
  have hstored : stored (stores.employees.find key) r =
      ((Attempt.ofExcept found).restate RegistryFault.ofStore, { r with employees := s }) := by
    simp only [stored, Action.finish, stores, keyedStore, onShelf, hfind]
  simp only [single, registryAnswer, answer, lookup]
  rcases hfound with rfl | rfl | rfl
  · rw [Action.next_error hstored]
    exact ⟨_, _, rfl, .fault (status_response _)⟩
  · rw [Action.next_ok hstored]
    exact ⟨_, _, rfl, .fault (status_response _)⟩
  · rw [Action.next_ok hstored]
    cases hrecord : r.employees.shelf.find? key with
    | none => exact ⟨_, _, rfl, .fault (status_response _)⟩
    | some e => exact ⟨_, _, rfl, .found key e hrecord rfl rfl⟩

/-- The answer of a registry whose store of employees works. -/
theorem single_of_steady {key : String} {e : Employee} (hsteady : r.employees.faults = {})
    (hfound : r.employees.shelf.find? key = some e) : single key r =
      (some (.ofJson 200 e.toJson),
        { r with employees := { r.employees with finds := r.employees.finds + 1 } }) := by
  simp only [single, registryAnswer, answer, lookup, stored, Action.next, Action.finish, stores,
    keyedStore, onShelf, SwitchedShelf.find_of_steady hsteady, hfound]
  rfl

/-- A path that leads nowhere is answered by 404. -/
theorem serve_missing {request : Request} (hmethod : request.method = "GET")
    (hpath : RegistryResource.ofPath? request.target.path = none) (r : Registry) :
    serveRegistry stores ["*"] Line.noStamp 0 request r =
      (some ((registryOrigins ["*"]).mark request (.bare 404)), r) := by
  have hnot : request.method ≠ "OPTIONS" := ne_of_eq_of_ne hmethod (by decide)
  simp only [serveRegistry, serveUnder, if_neg hnot, hpath]
  rfl

/-- What a registry responds to a question for a resource, as its service marks it. -/
theorem serve_resource {request : Request} {resource : RegistryResource}
    (hmethod : request.method = "GET")
    (hpath : RegistryResource.ofPath? request.target.path = some resource)
    {response : Response} {r r' : Registry}
    (h : serveResource stores Line.noStamp 0 request resource r = (some response, r')) :
    serveRegistry stores ["*"] Line.noStamp 0 request r =
      (some ((registryOrigins ["*"]).mark request response), r') := by
  rw [serveRegistry_get stores ["*"] Line.noStamp 0 hmethod hpath, h]
  rfl

/-- The question for the employee in a segment. -/
theorem serveResource_employee {request : Request} (hmethod : request.method = "GET")
    (segment : List Char) {key : String} (hkey : key? segment = some key) (r : Registry) :
    serveResource stores Line.noStamp 0 request (.employee segment) r = single key r := by
  have hserves : serveResource stores Line.noStamp 0 request (.employee segment) =
      withKey "rssb_number" segment single := dispatch_get hmethod ..
  rw [hserves, withKey, hkey]

/-- The list of employees as an answer, or a fault of the store. -/
theorem serveResource_employees {request : Request} (hmethod : request.method = "GET")
    (r : Registry) : ∃ response r', serveResource stores Line.noStamp 0 request .employees r =
      (some response, r') ∧ EmployeeAnswer r response := by
  have hserves : serveResource stores Line.noStamp 0 request .employees =
      registryAnswer 200 (listJson Employee.toJson) (stored stores.employees.all) :=
    dispatch_get hmethod ..
  have hlisted : registryAnswer 200 (listJson Employee.toJson) (stored stores.employees.all) r =
      (some (if r.employees.faults.find then (RegistryFault.store SwitchedShelf.fault).response
        else .ofJson 200 (listJson Employee.toJson r.employees.shelf.employees)),
      { r with employees := { r.employees with finds := r.employees.finds + 1 } }) :=
    @listed_eq _ _ employeeBook.shelf employeeBook.put _ Shelf.employees _ r
  refine ⟨_, _, (congrFun hserves r).trans hlisted, ?_⟩
  split
  · exact .fault (status_response _)
  · exact .listed _ rfl rfl

/-- **What a registry responds when it is asked for an employee**, whatever the key. -/
theorem serve_employee {base : Url} (hroot : base.trunk = []) (key : String) (r : Registry) :
    ∃ response r', serveRegistry stores ["*"] Line.noStamp 0 (employeeRequest base key) r =
        (some response, r') ∧ EmployeeAnswer r response := by
  have hmethod : (employeeRequest base key).method = "GET" := rfl
  have htarget : (employeeRequest base key).target.path =
      Url.spellPath (employee base key).path := rfl
  have hmissing (hpath : RegistryResource.ofPath? (employeeRequest base key).target.path = none) :
      ∃ response r', serveRegistry stores ["*"] Line.noStamp 0 (employeeRequest base key) r =
          (some response, r') ∧ EmployeeAnswer r response :=
    ⟨_, r, serve_missing hmethod hpath r,
      (EmployeeAnswer.fault (show 400 ≤ 404 by decide)).mark _ _⟩
  rcases Endpoint.path_employee_cases base key with
    ⟨-, hpath⟩ | ⟨-, -, hpath⟩ | ⟨-, -, hpath⟩ | ⟨-, -, hpath⟩ <;>
    rw [hroot, List.nil_append] at hpath
  -- the list of employees
  · have hresource : RegistryResource.ofPath? (employeeRequest base key).target.path =
        some .employees := by rw [htarget, hpath]; decide
    obtain ⟨response, r', hserves, hanswer⟩ := serveResource_employees hmethod r
    exact ⟨_, r', serve_resource hmethod hresource hserves, hanswer.mark _ _⟩
  · exact hmissing (by rw [htarget, hpath]; decide)
  · exact hmissing (by rw [htarget, hpath]; decide)
  -- one employee, if anything is left of the key
  · have hresource := Endpoint.ofPath?_employee (Target.pathChar_of_mem_escape
      (Url.isSpecial base.scheme) (Url.bare key.toList))
    rw [← hpath, ← htarget] at hresource
    split at hresource
    · exact hmissing hresource
    · obtain ⟨response, r', hserves, hanswer⟩ :=
        single_cases (String.ofList (Url.bare key.toList)) r
      rw [← serveResource_employee hmethod _ (key?_escape _ _)] at hserves
      exact ⟨_, r', serve_resource hmethod hresource hserves, hanswer.mark _ _⟩

/-- What it responds if the employee stands on its shelf, under a key of letters and digits, and its
store works. -/
theorem serve_employee_of_steady {base : Url} (hroot : base.trunk = []) {key : String}
    (hkey : IsKey key) {e : Employee} {r : Registry} (hsteady : r.employees.faults = {})
    (hfound : r.employees.shelf.find? key = some e) :
    ∃ response, serveRegistry stores ["*"] Line.noStamp 0 (employeeRequest base key) r =
        (some response,
          { r with employees := { r.employees with finds := r.employees.finds + 1 } }) ∧
      response.status = 200 ∧ response.body = e.toJson.render := by
  have hne : key.toList ≠ [] := fun hnil ↦ by
    have hlength := hkey.length_pos
    rw [← String.length_toList, hnil] at hlength
    exact absurd hlength (by decide)
  have hpath : (employeeRequest base key).target.path =
      Url.spellPath (employeeNames ++ [key.toList]) := by
    show Url.spellPath (employee base key).path = _
    rw [Endpoint.path_employee_of_isAlphanum base hkey.alphanum, hroot]
    rfl
  have hresource := Endpoint.ofPath?_employee
    fun c hc ↦ Target.pathChar_of_isAlphanum (hkey.alphanum c hc)
  rw [if_neg hne, ← hpath] at hresource
  have hsegment : key? key.toList = some key := by
    have hescape := Endpoint.key?_escape_toList false key
    rwa [Url.escape_of_isAlphanum hkey.alphanum] at hescape
  have hmethod : (employeeRequest base key).method = "GET" := rfl
  have hserves := single_of_steady hsteady hfound
  rw [← serveResource_employee hmethod key.toList hsegment] at hserves
  exact ⟨_, serve_resource hmethod hresource hserves, status_mark .., body_mark ..⟩

end Registry

/-! ### Questions change nothing -/

namespace Registry

/-- A question changes nothing on the shelves. -/
theorem same_serveResource {request : Request} (hmethod : request.method = "GET") (stamp : Stamp)
    (uptime : Nat) (r : Registry) (resource : RegistryResource) :
    Same r (serveResource stores stamp uptime request resource r).2 := by
  cases resource with
  | health => exact same_dispatch_none (Same.refl r)
  | employees =>
    rw [show serveResource stores stamp uptime request .employees = _ from dispatch_get hmethod ..]
    exact same_listed employeeBook Shelf.employees _ r
  | employee segment => exact same_dispatch_none (same_withKey employeeBook ..)
  | employers =>
    rw [show serveResource stores stamp uptime request .employers = _ from dispatch_get hmethod ..]
    exact same_listed employerBook Shelf.employers _ r
  | employer segment => exact same_dispatch_none (same_withKey employerBook ..)
  | contributions =>
    rw [show serveResource stores stamp uptime request .contributions = _ from
      dispatch_get hmethod ..]
    exact same_serveContributions request r

/-- A question leaves all records as they are. -/
theorem same_serve {request : Request} (hmethod : request.method = "GET") (origins : List String)
    (stamp : Stamp) (uptime : Nat) (r : Registry) :
    Same r (serveRegistry stores origins stamp uptime request r).2 := by
  cases hpath : RegistryResource.ofPath? request.target.path with
  | none =>
    have hnot : request.method ≠ "OPTIONS" := ne_of_eq_of_ne hmethod (by decide)
    have hserves : (serveRegistry stores origins stamp uptime request r).2 = r := by
      simp only [serveRegistry, serveUnder, if_neg hnot, hpath]
    rw [hserves]
    exact Same.refl r
  | some resource =>
    rw [serveRegistry_get stores origins stamp uptime hmethod hpath]
    exact same_serveResource hmethod stamp uptime r resource

end Registry

namespace Line

theorem same_ask (url : Url) (r : Registry) : Same r (Line.ask url r).2 := by
  unfold Line.ask
  cases hrequest : Line.requestFor? url with
  | none => exact Same.refl r
  | some request =>
    have hmethod : request.method = "GET" := by
      unfold Line.requestFor? at hrequest
      split at hrequest
      · cases hrequest
      · obtain ⟨target, -, rfl⟩ := Option.map_eq_some_iff.1 hrequest
        rfl
    have hsame := Registry.same_serve hmethod ["*"] Line.noStamp 0 r
    dsimp only
    generalize serveRegistry Registry.stores ["*"] Line.noStamp 0 request r = served at hsame
    obtain ⟨_ | response, r'⟩ := served <;> exact hsame

/-- A line is as it was, but for counts of calls. -/
structure Unchanged (l l' : Line) : Prop where
  /-- The registry has the same records. -/
  registry : Same l.registry l'.registry
  /-- The network is in the same state. -/
  outage : l'.outage = l.outage

theorem Unchanged.refl (l : Line) : Unchanged l l := ⟨Same.refl l.registry, rfl⟩

theorem Unchanged.trans {l l' l'' : Line} (h : Unchanged l l') (h' : Unchanged l' l'') :
    Unchanged l l'' :=
  ⟨h.registry.trans h'.registry, h'.outage.trans h.outage⟩

/-- Putting a question to the line leaves it as it was. -/
theorem unchanged_put (url : Url) (l : Line) : Unchanged l (Line.network.put url l).2 := by
  unfold Network.put
  split
  · unfold Line.network
    split
    · exact Unchanged.refl l
    · exact ⟨same_ask url l.registry, rfl⟩
  · exact Unchanged.refl l

/-- Being sent elsewhere means more questions. -/
theorem unchanged_follow (hops : Nat) (url : Url) (l : Line) :
    Unchanged l (Line.network.follow hops url l).2 := by
  induction hops generalizing url l with
  | zero =>
    have hput := unchanged_put url l
    unfold Network.follow
    generalize Line.network.put url l = answered at hput
    obtain ⟨fault | reply, l'⟩ := answered
    · exact hput
    · dsimp only
      cases reply.elsewhere? url <;> exact hput
  | succ hops ih =>
    have hput := unchanged_put url l
    unfold Network.follow
    generalize Line.network.put url l = answered at hput
    obtain ⟨fault | reply, l'⟩ := answered
    · exact hput
    · have hasked : Unchanged l l' := hput
      dsimp only
      cases reply.elsewhere? url with
      | none => exact hasked
      | some next => exact hasked.trans (ih next l')

/-- **Asking changes nothing**, redirects included. -/
theorem unchanged_fetch {α : Type} (decode : Json → Json.Decoded α) (name : String) (url : Url)
    (l : Line) : Unchanged l (Client.fetch Line.network decode name url l).2 := by
  have hfollow := unchanged_follow Network.patience url l
  unfold Client.fetch
  generalize Line.network.follow Network.patience url l = answered at hfollow
  obtain ⟨fault | reply, l'⟩ := answered <;> exact hfollow

end Line

/-! ### What the branch is told -/

namespace Line

/-- What the branch makes of a response. -/
theorem read_employee {r : Registry} {response : Response}
    (h : Registry.EmployeeAnswer r response) (name : String) :
    (∃ f, Client.read RemoteEmployee.ofJson name (Line.replyOf response) = .error f) ∨
    ∃ key e, r.employees.shelf.find? key = some e ∧
      Client.read RemoteEmployee.ofJson name (Line.replyOf response) = .ok e.told := by
  cases h with
  | fault status =>
    exact .inl ⟨_, Client.read_of_failure (.inr (by omega))⟩
  | listed es status body =>
    obtain ⟨f, hf⟩ := RemoteEmployee.ofJson_listToJson es
    refine .inl ⟨f.map (RemoteError.ofDecodeFault name), ?_⟩
    rw [Client.read_of_success status body (Employee.isPlain_listToJson es), listJson, hf]
    rfl
  | found key e found status body =>
    rw [Client.read_of_success status body (Employee.isPlain_toJson e),
      RemoteEmployee.ofJson_toJson]
    exact .inr ⟨key, e, found, rfl⟩

/-- No response to such a question sends the asker elsewhere. -/
theorem stays {r : Registry} {response : Response} (h : Registry.EmployeeAnswer r response) :
    Reply.isRedirect (Line.replyOf response).status = false := by
  have hstatus : response.status = 200 ∨ 400 ≤ response.status := by
    cases h with
    | fault status => exact .inr status
    | listed es status body => exact .inl status
    | found key e found status body => exact .inl status
  show [301, 302, 303, 307, 308].contains response.status = false
  rw [List.contains_eq_mem, decide_eq_false_iff_not]
  simp only [List.mem_cons, List.not_mem_nil, or_false]
  omega

variable {base : Url}

/-- A question that is put over the line. -/
theorem put_of_up {url : Url} {l : Line} (hspeaks : Network.speaks url = true)
    (hup : l.outage = false) : Line.network.put url l =
      ((Line.ask url l.registry).1, { l with registry := (Line.ask url l.registry).2 }) := by
  rw [Network.put, if_pos hspeaks, Line.network, if_neg (Bool.eq_false_iff.1 hup)]

/-- A question that does not get through. -/
theorem put_of_down {url : Url} {l : Line}
    (h : ¬ (Network.speaks url = true ∧ l.outage = false)) :
    ∃ fault, Line.network.put url l = (.error fault, l) := by
  unfold Network.put
  split
  · next hspeaks =>
    have hdown : l.outage = true := by simpa using fun hup ↦ h ⟨hspeaks, hup⟩
    exact ⟨_, if_pos hdown⟩
  · exact ⟨_, rfl⟩

/-- **Who the branch is told of stands on the registry's shelf.** -/
theorem employee_of_told (hroot : base.trunk = []) (hquery : base.query.getD [] = [])
    {key : String} {l l' : Line} {told : RemoteEmployee}
    (h : (Pair.masterData base).employee key l = (.ok told, l')) :
    ∃ e, l.registry.employees.shelf.find? e.rssbNumber = some e ∧ told = e.told := by
  have hnobody (fault : NetworkFault) :
      Line.network.put (employee base key) l ≠ (.error fault, l) := fun hput ↦ by
    have hfetch : (Pair.masterData base).employee key l = _ := Client.fetch_of_fault hput
    cases hfetch.symm.trans h
  by_cases hup : Network.speaks (employee base key) = true ∧ l.outage = false
  · have hput := put_of_up hup.1 hup.2
    rw [Line.ask, Endpoint.requestFor?_employee hroot hquery] at hput
    by_cases hsize : (employee base key).size ≤ Target.largestSize
    · obtain ⟨response, r', hserves, hanswer⟩ := Registry.serve_employee hroot key l.registry
      simp only [if_pos hsize, hserves] at hput
      have hfetch : (Pair.masterData base).employee key l = _ :=
        Client.fetch_of_reply hput (stays hanswer)
      have htold := congrArg Prod.fst (hfetch.symm.trans h)
      rcases read_employee hanswer (employee base key).text with ⟨f, hf⟩ | ⟨k, e, hfound, he⟩
      · cases hf.symm.trans htold
      · have hkey : e.rssbNumber = k := (Shelf.find?_eq_some hfound).2
        exact ⟨e, hkey ▸ hfound, (Except.ok.inj (he.symm.trans htold)).symm⟩
    · simp only [if_neg hsize] at hput
      exact absurd hput (hnobody _)
  · obtain ⟨fault, hput⟩ := put_of_down hup
    exact absurd hput (hnobody fault)

/-- **An employee on the registry's shelf is told of**, if registry and network work and the URL is
not too long to be asked for. -/
theorem employee_of_steady (hroot : base.trunk = []) (hquery : base.query.getD [] = [])
    (hspeaks : Network.speaks base = true) {key : String} (hkey : IsKey key)
    (hsize : (employee base key).size ≤ Target.largestSize) {e : Employee}
    {l : Line} (hup : l.outage = false) (hsteady : l.registry.employees.faults = {})
    (hfound : l.registry.employees.shelf.find? key = some e) :
    (Pair.masterData base).employee key l = (.ok e.told, { l with registry :=
      { l.registry with employees :=
        { l.registry.employees with finds := l.registry.employees.finds + 1 } } }) := by
  have hspeaks' : Network.speaks (employee base key) = true := hspeaks
  have hput := put_of_up hspeaks' hup
  obtain ⟨response, hserves, hstatus, hbody⟩ :=
    Registry.serve_employee_of_steady hroot hkey hsteady hfound
  simp only [Line.ask, Endpoint.requestFor?_employee hroot hquery,
    if_pos hsize, hserves] at hput
  have hread : Client.read RemoteEmployee.ofJson (employee base key).text
      (Line.replyOf response) = .ok e.told := by
    rw [Client.read_of_success hstatus hbody (Employee.isPlain_toJson e),
      RemoteEmployee.ofJson_toJson]
    rfl
  have hstays : Reply.isRedirect (Line.replyOf response).status = false :=
    stays (.found key e hfound hstatus hbody)
  exact (Client.fetch_of_reply hput hstays).trans (by rw [hread])

end Line

end ContributionRegistry.Deployment
