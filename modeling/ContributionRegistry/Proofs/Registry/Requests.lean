import ContributionRegistry.Deployment.Registry
import ContributionRegistry.Proofs.Store.Shelves
import ContributionRegistry.Service.Registry.Serve

/-!
# What one request does to a registry

Records are of three kinds, and what a request to post one does is the same for all of them: a
`Book` says where records of a kind are posted, how they are decoded, checked, entered and shown,
and which shelf they stand on. The three books are the values of one structure, so what is proved of
a book is proved once.

* There are six ways through a post (`Book.Posted`), and one of them puts a record on the shelf: the
  handler decodes, checks, enters and stores, and may stop at each of these.
* All other requests leave the three shelves as they are (`Same`).
* So a request leaves all three alone or adds one record to one of them (`Change`,
  `change_serveRegistry`). This is the step lemma that every history of a registry goes by; nothing
  later looks into the handlers again.
-/

namespace ContributionRegistry.Deployment.Registry

open Http (OriginPolicy Request Response)
open Service

/-- The shelves have the same records. -/
structure Same (r r' : Registry) : Prop where
  /-- The same employees, in the same places. -/
  employees : r'.employees.shelf = r.employees.shelf
  /-- The same employers. -/
  employers : r'.employers.shelf = r.employers.shelf
  /-- The same contributions. -/
  contributions : r'.contributions.shelf = r.contributions.shelf

theorem Same.refl (r : Registry) : Same r r := ⟨rfl, rfl, rfl⟩

theorem Same.trans {r r' r'' : Registry} (h : Same r r') (h' : Same r' r'') : Same r r'' :=
  ⟨h'.employees.trans h.employees, h'.employers.trans h.employers,
    h'.contributions.trans h.contributions⟩

/-- The status of a response, if there is one. -/
def status? (response : Option Response) : Option Nat := response.map Response.status

/-- The body of a response, if there is one. -/
def body? (response : Option Response) : Option String := response.map Response.body

/-! ### Books -/

/-- Puts a new record on a shelf of a registry. -/
def createOn {ρ : Type} [Keyed ρ] (shelf : Registry → SwitchedShelf ρ)
    (put : SwitchedShelf ρ → Registry → Registry) (record : ρ) : Action Registry StoreError ρ :=
  onShelf shelf put (SwitchedShelf.create record)

/-- A kind of records: the resource that they are posted to, and what becomes of them there. -/
structure Book (α ρ : Type) [Keyed ρ] where
  /-- Where records are posted and listed. -/
  resource : RegistryResource
  /-- How the body of a post is decoded. -/
  decode : Json → Json.Decoded α
  /-- The checks that a decoded record has to pass. -/
  validate : α → Except InvalidField Unit
  /-- The record that is made of it, with the identifier and the time. -/
  enter : α → Stamp → ρ
  /-- How a record is shown. -/
  toJson : ρ → Json
  /-- The shelf that the records stand on. -/
  shelf : Registry → SwitchedShelf ρ
  /-- The registry with another shelf in its place. -/
  put : SwitchedShelf ρ → Registry → Registry
  /-- Putting a shelf with the same records changes no records. -/
  same_put : ∀ s r, s.shelf = (shelf r).shelf → Same r (put s r)
  /-- A post is answered by storing on that shelf. -/
  serves : ∀ stamp uptime request, request.method = "POST" →
    serveResource stores stamp uptime request resource =
      registryAnswer 201 toJson (create decode validate enter (createOn shelf put) stamp request)

theorem dispatch_post {σ : Type} {request : Request} (h : request.method = "POST")
    (get post : Serving σ) : dispatch request get (some post) = post := by
  simp only [dispatch, h]

/-- Employees. -/
def employeeBook : Book NewEmployee Employee where
  resource := .employees
  decode := NewEmployee.ofJson
  validate := NewEmployee.validate
  enter := NewEmployee.enter
  toJson := Employee.toJson
  shelf := employees
  put employees r := { r with employees }
  same_put _ _ h := ⟨h, rfl, rfl⟩
  serves _ _ _ h := dispatch_post h ..

/-- Employers. -/
def employerBook : Book NewEmployer Employer where
  resource := .employers
  decode := NewEmployer.ofJson
  validate := NewEmployer.validate
  enter := NewEmployer.enter
  toJson := Employer.toJson
  shelf := employers
  put employers r := { r with employers }
  same_put _ _ h := ⟨rfl, h, rfl⟩
  serves _ _ _ h := dispatch_post h ..

/-- Contributions. -/
def contributionBook : Book NewContribution Contribution where
  resource := .contributions
  decode := NewContribution.ofJson
  validate := NewContribution.validate
  enter := NewContribution.enter
  toJson := Contribution.toJson
  shelf := contributions
  put contributions r := { r with contributions }
  same_put _ _ h := ⟨rfl, rfl, h⟩
  serves _ _ _ h := dispatch_post h ..

/-! ### Posts -/

section

variable {α ρ : Type} [Keyed ρ] {book : Book α ρ} {stamp : Stamp} {request : Request} {r : Registry}

/-- The ways through a post, with the response and the registry left behind. -/
inductive Book.Posted (book : Book α ρ) (stamp : Stamp) (request : Request) (r : Registry) :
    Option Response → Registry → Prop where
  /-- Decoding the body is abandoned. -/
  | abandoned (body : decodeBody book.decode request = .error .abandoned) :
      Posted book stamp request r none r
  /-- The body is refused. -/
  | undecoded {reason : String}
      (body : decodeBody book.decode request = .error (.refused (.invalidInput reason))) :
      Posted book stamp request r (some (RegistryFault.invalidInput reason).response) r
  /-- What is handed in does not pass the checks. -/
  | invalid {input : α} {reason : InvalidField} (body : decodeBody book.decode request = .ok input)
      (check : book.validate input = .error reason) :
      Posted book stamp request r (some (RegistryFault.unacceptable (.field reason)).response) r
  /-- The store fails. -/
  | failed {input : α} {s : SwitchedShelf ρ} (body : decodeBody book.decode request = .ok input)
      (check : book.validate input = .ok ()) (fails : (book.shelf r).faults.create = true)
      (kept : s.shelf = (book.shelf r).shelf) :
      Posted book stamp request r (some (RegistryFault.store SwitchedShelf.fault).response)
        (book.put s r)
  /-- The key is taken. -/
  | conflict {input : α} {s : SwitchedShelf ρ} (body : decodeBody book.decode request = .ok input)
      (check : book.validate input = .ok ()) (works : (book.shelf r).faults.create = false)
      (taken : (book.shelf r).shelf.taken (Keyed.key (book.enter input stamp)) = true)
      (kept : s.shelf = (book.shelf r).shelf) :
      Posted book stamp request r
        (some (RegistryFault.conflict (Keyed.entity ρ)
          (Keyed.key (book.enter input stamp))).response)
        (book.put s r)
  /-- The record is put on the shelf. -/
  | created {input : α} {s : SwitchedShelf ρ} (body : decodeBody book.decode request = .ok input)
      (check : book.validate input = .ok ()) (works : (book.shelf r).faults.create = false)
      (free : (book.shelf r).shelf.taken (Keyed.key (book.enter input stamp)) = false)
      (grown : s.shelf.records = (book.shelf r).shelf.records ++ [book.enter input stamp]) :
      Posted book stamp request r
        (some (Response.ofJson 201 (book.toJson (book.enter input stamp)))) (book.put s r)

/-- A body that is refused is refused as unfit input. -/
theorem eq_invalidInput_of_decodeBody {decode : Json → Json.Decoded α} {f : RegistryFault}
    (h : decodeBody decode request = .error (.refused f)) : ∃ reason, f = .invalidInput reason := by
  unfold decodeBody at h
  split at h
  · cases h
    exact ⟨_, rfl⟩
  · split at h
    · cases h
      exact ⟨_, rfl⟩
    · cases hdecode : Json.decode decode (Text.Utf8.decode request.body) with
      | ok input =>
        rw [hdecode] at h
        cases h
      | error e =>
        rw [hdecode] at h
        cases e with
        | refused reason =>
          cases h
          exact ⟨_, rfl⟩
        | abandoned => cases h

/-- **Every post takes one of the ways.** -/
theorem Book.posted (book : Book α ρ) (stamp : Stamp) (request : Request) (r : Registry) :
    let o := registryAnswer 201 book.toJson
      (create book.decode book.validate book.enter (createOn book.shelf book.put) stamp request) r
    book.Posted stamp request r o.1 o.2 := by
  intro o
  -- the handler stops at the first step that fails: decoding, checking, storing
  rcases hbody : decodeBody book.decode request with (f | _) | input
  · obtain ⟨reason, rfl⟩ := eq_invalidInput_of_decodeBody hbody
    have ho : o = (some (RegistryFault.invalidInput reason).response, r) := by
      simp only [o, registryAnswer, answer, create, hbody]
      rfl
    rw [ho]
    exact .undecoded hbody
  · have ho : o = (none, r) := by
      simp only [o, registryAnswer, answer, create, hbody]
      rfl
    rw [ho]
    exact .abandoned hbody
  · rcases hcheck : book.validate input with reason | ⟨⟩
    · have ho : o = (some (RegistryFault.unacceptable (.field reason)).response, r) := by
        simp only [o, registryAnswer, answer, create, hbody, hcheck]
        rfl
      rw [ho]
      exact .invalid hbody hcheck
    · have ho : o = answer RegistryFault.response 201 book.toJson
          (stored (createOn book.shelf book.put (book.enter input stamp))) r := by
        simp only [o, registryAnswer, answer, create, hbody, hcheck]
      rcases (book.shelf r).create_cases (book.enter input stamp) with
        ⟨hfails, hcreate⟩ | ⟨hworks, htaken, hcreate⟩ | ⟨hworks, hfree, shelf, hcreate, hgrown⟩
      · simp only [ho, answer, stored, Action.finish, createOn, onShelf, hcreate]
        exact .failed hbody hcheck hfails rfl
      · simp only [ho, answer, stored, Action.finish, createOn, onShelf, hcreate]
        exact .conflict hbody hcheck hworks htaken rfl
      · simp only [ho, answer, stored, Action.finish, createOn, onShelf, hcreate]
        exact .created hbody hcheck hworks hfree hgrown

/-- A record was put on the shelf, and the response says so. -/
structure Book.Added (book : Book α ρ) (stamp : Stamp) (request : Request) (r : Registry)
    (response : Option Response) (r' : Registry) : Prop where
  /-- The body was that of a record that passes, and the record stands at the end of the shelf. -/
  added : ∃ input s, decodeBody book.decode request = .ok input ∧ book.validate input = .ok () ∧
    s.shelf.records = (book.shelf r).shelf.records ++ [book.enter input stamp] ∧ r' = book.put s r
  /-- The status is 201. -/
  status : status? response = some 201

/-- A post leaves the shelves alone or adds a record. -/
theorem Book.Posted.same_or_added {response : Option Response} {r' : Registry}
    (h : book.Posted stamp request r response r') :
    Same r r' ∨ book.Added stamp request r response r' := by
  cases h with
  | abandoned body => exact .inl (Same.refl r)
  | undecoded body => exact .inl (Same.refl r)
  | invalid body check => exact .inl (Same.refl r)
  | failed body check fails kept => exact .inl (book.same_put _ r kept)
  | conflict body check works taken kept => exact .inl (book.same_put _ r kept)
  | created body check works free grown => exact .inr ⟨⟨_, _, body, check, grown, rfl⟩, rfl⟩

end

/-! ### Reads -/

section

variable {ρ : Type} [Keyed ρ] {shelf : Registry → SwitchedShelf ρ}
  {put : SwitchedShelf ρ → Registry → Registry}

/-- What `view` shows of a shelf, unless the store fails. -/
theorem listed_eq {α : Type} (view : Shelf ρ → α) (toJson : α → Json) (r : Registry) :
    registryAnswer 200 toJson (stored (onShelf shelf put (SwitchedShelf.list view))) r =
      (some (if (shelf r).faults.find then (RegistryFault.store SwitchedShelf.fault).response
        else .ofJson 200 (toJson (view (shelf r).shelf))),
      put { shelf r with finds := (shelf r).finds + 1 } r) := by
  simp only [registryAnswer, answer, stored, Action.finish, onShelf, SwitchedShelf.list]
  split <;> rfl

/-- What is found under a key, unless the store fails or finds nothing. -/
theorem found_cases (put : SwitchedShelf ρ → Registry → Registry) (view : Shelf ρ → List ρ)
    (entity : String) (toJson : ρ → Json) (key : String) (r : Registry) :
    ∃ response s, s.shelf = (shelf r).shelf ∧
      registryAnswer 200 toJson (lookup entity (keyedStore shelf put view) key) r =
        (some response, put s r) ∧
      (response.status = 200 → ∃ record, (shelf r).shelf.find? key = some record ∧
        response = .ofJson 200 (toJson record)) := by
  rcases hfind : (shelf r).find key with ⟨found, s⟩
  obtain ⟨hkept, -, hfound⟩ := SwitchedShelf.find_effect hfind
  have hstored : stored ((keyedStore shelf put view).find key) r =
      ((Attempt.ofExcept found).restate RegistryFault.ofStore, put s r) := by
    simp only [stored, Action.finish, keyedStore, onShelf, hfind]
  have hmissing : (RegistryFault.notFound entity key).response.status ≠ 200 :=
    show (404 : Nat) ≠ 200 by decide
  simp only [registryAnswer, answer, lookup]
  rcases hfound with rfl | rfl | rfl
  · rw [Action.next_error hstored]
    exact ⟨_, s, hkept, rfl, fun h ↦ absurd h (show (500 : Nat) ≠ 200 by decide)⟩
  · rw [Action.next_ok hstored]
    exact ⟨_, s, hkept, rfl, fun h ↦ absurd h hmissing⟩
  · rw [Action.next_ok hstored]
    cases hrecord : (shelf r).shelf.find? key with
    | none => exact ⟨_, s, hkept, rfl, fun h ↦ absurd h hmissing⟩
    | some record => exact ⟨_, s, hkept, rfl, fun _ ↦ ⟨record, rfl, rfl⟩⟩

end

/-- Listing changes nothing on the shelves. -/
theorem same_listed {α ρ β : Type} [Keyed ρ] (book : Book α ρ) (view : Shelf ρ → β)
    (toJson : β → Json) (r : Registry) : Same r (registryAnswer 200 toJson
      (stored (onShelf book.shelf book.put (SwitchedShelf.list view))) r).2 := by
  rw [listed_eq]
  exact book.same_put _ r rfl

theorem same_withKey {α ρ : Type} [Keyed ρ] (book : Book α ρ) (view : Shelf ρ → List ρ)
    (entity name : String) (segment : List Char) (r : Registry) :
    Same r (withKey name segment (fun key ↦ registryAnswer 200 book.toJson
      (lookup entity (keyedStore book.shelf book.put view) key)) r).2 := by
  unfold withKey
  cases key? segment with
  | none => exact Same.refl r
  | some key =>
    obtain ⟨response, s, hkept, heq, -⟩ := found_cases book.put view entity book.toJson key r
    show Same r (registryAnswer 200 book.toJson (lookup entity _ key) r).2
    rw [heq]
    exact book.same_put s r hkept

theorem same_serveContributions (request : Request) (r : Registry) :
    Same r (serveContributions stores request r).2 := by
  unfold serveContributions
  cases ListingQuery.read request.target with
  | error name => exact Same.refl r
  | ok q =>
    show Same r (registryAnswer 200 Contribution.listToJson (listContributions stores
      (ContributionFilter.ofParams q.rssbNumber q.period q.matricule)) r).2
    rcases ContributionFilter.ofParams q.rssbNumber q.period q.matricule with reason | filter
    · exact Same.refl r
    · exact same_listed contributionBook (fun shelf ↦ shelf.contributions filter) _ r

/-! ### Any request -/

/-- What a request does to the records: nothing, or one is put on a shelf. -/
inductive Change (stamp : Stamp) (request : Request) (r : Registry) (response : Option Response)
    (r' : Registry) : Prop where
  | none (same : Same r r')
  | employee (added : employeeBook.Added stamp request r response r')
  | employer (added : employerBook.Added stamp request r response r')
  | contribution (added : contributionBook.Added stamp request r response r')

/-- A request is a read, a read without the body, answered without the state, or a post. -/
theorem dispatch_cases {σ : Type} (request : Request) (get : Serving σ)
    (post : Option (Serving σ)) :
    dispatch request get post = get ∨
    (dispatch request get post = fun s ↦ ((get s).1.map Response.withoutBody, (get s).2)) ∨
    (∃ response, dispatch request get post = serve response) ∨
    (request.method = "POST" ∧ post.isSome = true) := by
  unfold dispatch
  split
  · exact .inl rfl
  · exact .inr (.inl rfl)
  · next h => exact .inr (.inr (.inr ⟨h, rfl⟩))
  · exact .inr (.inr (.inl ⟨_, rfl⟩))
  · exact .inr (.inr (.inl ⟨_, rfl⟩))

variable {stamp : Stamp} {uptime : Nat} {request : Request} {r : Registry}

/-- What a request for the resource of a book does. -/
theorem Book.same_or_added {α ρ : Type} [Keyed ρ] (book : Book α ρ) {get post : Serving Registry}
    (hresource : serveResource stores stamp uptime request book.resource =
      dispatch request get (some post)) (hget : Same r (get r).2) :
    let o := serveResource stores stamp uptime request book.resource r
    Same r o.2 ∨ book.Added stamp request r o.1 o.2 := by
  intro o
  rcases dispatch_cases request get (some post) with h | h | ⟨response, h⟩ | ⟨hpost, -⟩
  · simp only [o, hresource, h]
    exact .inl hget
  · simp only [o, hresource, h]
    exact .inl hget
  · simp only [o, hresource, h]
    exact .inl (Same.refl r)
  · simp only [o, book.serves stamp uptime request hpost]
    exact (book.posted stamp request r).same_or_added

theorem same_dispatch_none {get : Serving Registry} (hget : Same r (get r).2) :
    Same r (dispatch request get none r).2 := by
  rcases dispatch_cases request get none with h | h | ⟨response, h⟩ | ⟨-, h⟩
  · rwa [h]
  · rwa [h]
  · rw [h]
    exact Same.refl r
  · cases h

/-- **What a request for a resource does.** -/
theorem change_serveResource (stamp : Stamp) (uptime : Nat) (request : Request) (r : Registry)
    (resource : RegistryResource) :
    let o := serveResource stores stamp uptime request resource r
    Change stamp request r o.1 o.2 := by
  intro o
  cases resource with
  | health => exact .none (same_dispatch_none (Same.refl r))
  | employees =>
    rcases employeeBook.same_or_added rfl (same_listed employeeBook Shelf.employees _ r) with h | h
    · exact .none h
    · exact .employee h
  | employee segment => exact .none (same_dispatch_none (same_withKey employeeBook ..))
  | employers =>
    rcases employerBook.same_or_added rfl (same_listed employerBook Shelf.employers _ r) with h | h
    · exact .none h
    · exact .employer h
  | employer segment => exact .none (same_dispatch_none (same_withKey employerBook ..))
  | contributions =>
    rcases contributionBook.same_or_added rfl (same_serveContributions request r) with h | h
    · exact .none h
    · exact .contribution h

/-- Whom the service grants what makes no difference to status and body. -/
theorem map_mark (p : OriginPolicy) (request : Request) (response : Option Response) :
    status? (response.map (p.mark request)) = status? response ∧
      body? (response.map (p.mark request)) = body? response := by
  cases response with
  | none => exact ⟨rfl, rfl⟩
  | some response =>
    rw [Option.map_some]
    unfold OriginPolicy.mark
    split <;> exact ⟨rfl, rfl⟩

/-- A request for a resource, unless it is a question in advance. -/
theorem serveRegistry_eq (origins : List String) (stamp : Stamp) (uptime : Nat) (r : Registry)
    {resource : RegistryResource} (hmethod : request.method ≠ "OPTIONS")
    (hpath : RegistryResource.ofPath? request.target.path = some resource) :
    let o := serveRegistry stores origins stamp uptime request r
    let o' := serveResource stores stamp uptime request resource r
    status? o.1 = status? o'.1 ∧ body? o.1 = body? o'.1 ∧ o.2 = o'.2 := by
  intro o o'
  have ho : o = (o'.1.map ((registryOrigins origins).mark request), o'.2) := by
    simp only [o, serveRegistry, serveUnder, if_neg hmethod, hpath]
    rfl
  obtain ⟨hstatus, hbody⟩ := map_mark (registryOrigins origins) request o'.1
  rw [ho]
  exact ⟨hstatus, hbody, rfl⟩

theorem Book.Added.of_status {α ρ : Type} [Keyed ρ] {book : Book α ρ}
    {response response' : Option Response} {r' : Registry}
    (h : book.Added stamp request r response r') (hstatus : status? response' = status? response) :
    book.Added stamp request r response' r' := ⟨h.added, hstatus.trans h.status⟩

/-- **A request adds one record or none**, and with a record the status is 201. -/
theorem change_serveRegistry (origins : List String) :
    let o := serveRegistry stores origins stamp uptime request r
    Change stamp request r o.1 o.2 := by
  intro o
  by_cases hmethod : request.method = "OPTIONS"
  · have ho : o.2 = r := by simp only [o, serveRegistry, serveUnder, if_pos hmethod]
    exact .none (ho ▸ Same.refl r)
  · cases hpath : RegistryResource.ofPath? request.target.path with
    | none =>
      have ho : o.2 = r := by simp only [o, serveRegistry, serveUnder, if_neg hmethod, hpath]
      exact .none (ho ▸ Same.refl r)
    | some resource =>
      obtain ⟨hstatus, -, hleft⟩ := serveRegistry_eq origins stamp uptime r hmethod hpath
      rw [show o.2 = _ from hleft]
      rcases change_serveResource stamp uptime request r resource with h | h | h | h
      · exact .none h
      · exact .employee (h.of_status hstatus)
      · exact .employer (h.of_status hstatus)
      · exact .contribution (h.of_status hstatus)

end ContributionRegistry.Deployment.Registry
