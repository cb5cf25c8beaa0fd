import ContributionRegistry.Proofs.Registry.Histories
import Mathlib.Control.Monad.Basic

/-!
# What a registry answers

A request makes a record just if its body can be used, the key is free and the store works; a body
that cannot be used is refused before the store is asked; and whatever else comes of a request, it
leaves the records alone. What is read is what was stored: a record under its key is the one that
was stored first, and a listing has all records once, newest first (`requests_answered`).

Employees and employers are answered about in the same way, and contributions nearly so, so what is
said is said of a `Book`:

* `Book.Posting` is what becomes of a post, in terms of the body, the key and the store
  (`Book.posting`); it restates the six ways through a post by the status of the response.
* `Book.Reading` is what a question is told (`Book.reading`). The two resources of a book lead to a
  lookup under a key and to a listing, and both show what is on the shelf.
* `Kept` is what a later state owes to an earlier one. Shelves only grow, so a record stays where it
  is found.

`requests_answered_taken` is a history that stores one employer, loses the store of contributions,
and is then asked to store another employer under the same key.
-/

namespace ContributionRegistry.Deployment.Registry

open Calendar (Timestamp)
open Http (Request Response)
open Service

/-- Faults are no successes. -/
theorem status?_fault_ne (f : RegistryFault) {n : Nat} (hn : n < 400) :
    status? (some f.response) ≠ some n := by
  intro h
  have hstatus : f.status = n := Option.some.inj h
  cases f <;> simp [RegistryFault.status] at hstatus <;> omega

/-! ### Answers to posts -/

section

variable {α ρ : Type} [Keyed ρ] {book : Book α ρ} {stamp : Stamp} {request : Request}
  {r r' : Registry} {response : Option Response}

/-- The body of the post cannot be used: it is not decoded, or does not pass the checks. -/
def Book.Refuses (book : Book α ρ) (request : Request) : Prop :=
  (∃ f, decodeBody book.decode request = .error (.refused f)) ∨
    ∃ input reason, decodeBody book.decode request = .ok input ∧
      book.validate input = .error reason

/-- What a post has to bring along, and to find, to make a record. -/
def Book.Takes (book : Book α ρ) (taken : ρ → Prop) (stamp : Stamp) (request : Request)
    (r : Registry) : Prop :=
  ∃ input, decodeBody book.decode request = .ok input ∧ book.validate input = .ok () ∧
    ¬ taken (book.enter input stamp) ∧ (book.shelf r).faults.create = false

/-- The record that a post has made: it is what was handed in, it is told in the response, and it is
all that is new. -/
def Book.Made (book : Book α ρ) (stamp : Stamp) (request : Request) (r : Registry)
    (response : Option Response) (r' : Registry) : Prop :=
  ∃ input s, decodeBody book.decode request = .ok input ∧
    body? response = some (book.toJson (book.enter input stamp)).render ∧
    s.shelf.records = (book.shelf r).shelf.records ++ [book.enter input stamp] ∧ r' = book.put s r

/-- **The status is 201 just if a record is made:** of the six ways through a post one ends so, and
it is the one where body, key and store are in order. -/
theorem Book.Posted.status_iff {taken : ρ → Prop}
    (htaken : ∀ input, taken (book.enter input stamp) ↔
      (book.shelf r).shelf.taken (Keyed.key (book.enter input stamp)) = true)
    (h : book.Posted stamp request r response r') :
    status? response = some 201 ↔ book.Takes taken stamp request r := by
  -- of one body there is one decoding
  have hbody {input input' : α} (hinput : decodeBody book.decode request = .ok input)
      (hinput' : decodeBody book.decode request = .ok input') : input' = input :=
    Except.ok.inj (hinput'.symm.trans hinput)
  cases h with
  | abandoned body =>
    refine ⟨nofun, fun ⟨input, hinput, _⟩ ↦ ?_⟩
    cases body.symm.trans hinput
  | undecoded body =>
    refine ⟨fun hstatus ↦ absurd hstatus (status?_fault_ne _ (by decide)),
      fun ⟨input, hinput, _⟩ ↦ ?_⟩
    cases body.symm.trans hinput
  | invalid body check =>
    refine ⟨fun hstatus ↦ absurd hstatus (status?_fault_ne _ (by decide)),
      fun ⟨input, hinput, hcheck, _⟩ ↦ ?_⟩
    cases hbody body hinput
    cases check.symm.trans hcheck
  | failed body check fails kept =>
    refine ⟨fun hstatus ↦ absurd hstatus (status?_fault_ne _ (by decide)),
      fun ⟨_, _, _, _, hworks⟩ ↦ ?_⟩
    cases fails.symm.trans hworks
  | conflict body check works inUse kept =>
    refine ⟨fun hstatus ↦ absurd hstatus (status?_fault_ne _ (by decide)),
      fun ⟨input, hinput, _, hfree, _⟩ ↦ ?_⟩
    cases hbody body hinput
    exact absurd ((htaken _).2 inUse) hfree
  | created body check works free grown =>
    refine ⟨fun _ ↦ ⟨_, body, check, fun hin ↦ ?_, works⟩, fun _ ↦ rfl⟩
    cases free.symm.trans ((htaken _).1 hin)

/-- Where the status is 201, the record was put on the shelf and told of. -/
theorem Book.Posted.made (h : book.Posted stamp request r response r')
    (hstatus : status? response = some 201) : book.Made stamp request r response r' := by
  cases h with
  | abandoned body => cases hstatus
  | undecoded body => exact absurd hstatus (status?_fault_ne _ (by decide))
  | invalid body check => exact absurd hstatus (status?_fault_ne _ (by decide))
  | failed body check fails kept => exact absurd hstatus (status?_fault_ne _ (by decide))
  | conflict body check works taken kept => exact absurd hstatus (status?_fault_ne _ (by decide))
  | created body check works free grown => exact ⟨_, _, body, rfl, grown, rfl⟩

/-- Whether the key is taken or the store fails does not come into it. -/
theorem Book.Posted.of_refuses (h : book.Posted stamp request r response r')
    (hrefuses : book.Refuses request) : status? response = some 400 ∧ r' = r := by
  have hbody {input : α} (hinput : decodeBody book.decode request = .ok input)
      (hcheck : book.validate input = .ok ()) : False := by
    rcases hrefuses with ⟨f, hf⟩ | ⟨input', reason, hinput', hreason⟩
    · cases hf.symm.trans hinput
    · cases hinput'.symm.trans hinput
      cases hreason.symm.trans hcheck
  cases h with
  | abandoned body =>
    rcases hrefuses with ⟨f, hf⟩ | ⟨input, reason, hinput, -⟩
    · cases body.symm.trans hf
    · cases body.symm.trans hinput
  | undecoded body => exact ⟨rfl, rfl⟩
  | invalid body check => exact ⟨rfl, rfl⟩
  | failed body check fails kept => exact (hbody body check).elim
  | conflict body check works taken kept => exact (hbody body check).elim
  | created body check works free grown => exact (hbody body check).elim

/-- What becomes of a request that posts to a book; `taken` says which records find their key in
use. -/
structure Book.Posting (book : Book α ρ) (taken : ρ → Prop) (origins : List String) (a : Arrival)
    (r : Registry) : Prop where
  /-- The status is 201 just if the body can be used, the key is free and the store works. -/
  made_iff : status? (serve origins a r).1 = some 201 ↔ book.Takes taken a.stamp a.request r
  /-- If it is, the record stands on the shelf and in the body of the response. -/
  made : status? (serve origins a r).1 = some 201 →
    book.Made a.stamp a.request r (serve origins a r).1 (serve origins a r).2
  /-- A body that cannot be used is refused, and nothing at all is different afterwards. -/
  refused : book.Refuses a.request →
    status? (serve origins a r).1 = some 400 ∧ (serve origins a r).2 = r

/-- **What becomes of a post** to a book, after all that the router and the origins add. -/
theorem Book.posting (book : Book α ρ) {taken : ρ → Prop} (origins : List String) {a : Arrival}
    (hmethod : a.request.method = "POST") (hresource : a.resource? = some book.resource)
    (htaken : ∀ input, taken (book.enter input a.stamp) ↔
      (book.shelf r).shelf.taken (Keyed.key (book.enter input a.stamp)) = true) :
    book.Posting taken origins a r := by
  have hnot : a.request.method ≠ "OPTIONS" := ne_of_eq_of_ne hmethod (by decide)
  obtain ⟨hstatus, hbody, hleft⟩ := serveRegistry_eq origins a.stamp a.uptime r hnot hresource
  rw [book.serves a.stamp a.uptime a.request hmethod] at hstatus hbody hleft
  have hposted := book.posted a.stamp a.request r
  refine ⟨?_, fun hmade ↦ ?_, fun hrefuses ↦ ?_⟩
  · rw [serve, hstatus]
    exact hposted.status_iff htaken
  · rw [serve, hstatus] at hmade
    obtain ⟨input, s, hinput, htold, hgrown, hput⟩ := hposted.made hmade
    exact ⟨input, s, hinput, hbody.trans htold, hgrown, hleft.trans hput⟩
  · rw [serve, hstatus, hleft]
    exact hposted.of_refuses hrefuses

end

/-! ### Answers to questions -/

section

variable {α ρ : Type} [Keyed ρ]

theorem dispatch_get {σ : Type} {request : Request} (h : request.method = "GET")
    (get : Serving σ) (post : Option (Serving σ)) : dispatch request get post = get := by
  simp only [dispatch, h]

/-- What is told of a record, and of all of them. -/
structure Book.Reading (book : Book α ρ) (single : List Char → RegistryResource)
    (created : ρ → Timestamp) (origins : List String) (a : Arrival) (r : Registry) : Prop where
  /-- A record is told of as it stands under the key. -/
  found : ∀ segment key, a.resource? = some (single segment) → key? segment = some key →
    status? (serve origins a r).1 = some 200 →
    ∃ record, (book.shelf r).shelf.find? key = some record ∧
      body? (serve origins a r).1 = some (book.toJson record).render
  /-- A listing has each record of the shelf once, and they do not get newer. -/
  listed : a.resource? = some book.resource → status? (serve origins a r).1 = some 200 →
    ∃ list, body? (serve origins a r).1 = some (listJson book.toJson list).render ∧
      list.Perm (book.shelf r).shelf.records ∧
      list.Pairwise fun x y ↦ ¬ (created x).precedes (created y) = true

/-- A listing that succeeds shows what is on the shelf. -/
theorem body?_listed {β : Type} (book : Book α ρ) (view : Shelf ρ → β) (toJson : β → Json)
    (r : Registry)
    (h : status? (registryAnswer 200 toJson
      (stored (onShelf book.shelf book.put (SwitchedShelf.list view))) r).1 = some 200) :
    body? (registryAnswer 200 toJson
      (stored (onShelf book.shelf book.put (SwitchedShelf.list view))) r).1 =
      some (toJson (view (book.shelf r).shelf)).render := by
  rw [listed_eq] at h ⊢
  by_cases hfails : (book.shelf r).faults.find = true
  · rw [if_pos hfails] at h
    exact absurd h (status?_fault_ne _ (by decide))
  · rw [if_neg hfails]
    rfl

/-- A lookup that succeeds shows the record under the key. -/
theorem body?_found (book : Book α ρ) (view : Shelf ρ → List ρ) (entity name : String)
    {segment : List Char} {key : String} (hkey : key? segment = some key) (r : Registry)
    (h : status? (withKey name segment (fun key ↦ registryAnswer 200 book.toJson
      (lookup entity (keyedStore book.shelf book.put view) key)) r).1 = some 200) :
    ∃ record, (book.shelf r).shelf.find? key = some record ∧
      body? (withKey name segment (fun key ↦ registryAnswer 200 book.toJson
        (lookup entity (keyedStore book.shelf book.put view) key)) r).1 =
        some (book.toJson record).render := by
  simp only [withKey, hkey] at h ⊢
  obtain ⟨response, s, -, heq, hfound⟩ := found_cases book.put view entity book.toJson key r
  rw [heq] at h ⊢
  obtain ⟨record, hrecord, rfl⟩ := hfound (Option.some.inj h)
  exact ⟨record, hrecord, rfl⟩

/-- **What is told of a book**, whichever of its two resources is asked for. -/
theorem Book.reading (book : Book α ρ) (view : Shelf ρ → List ρ) (entity name : String)
    {single : List Char → RegistryResource} {created : ρ → Timestamp} (origins : List String)
    {a : Arrival} (r : Registry) (hmethod : a.request.method = "GET")
    (hsingle : ∀ segment, serveResource stores a.stamp a.uptime a.request (single segment) =
      withKey name segment fun key ↦ registryAnswer 200 book.toJson
        (lookup entity (keyedStore book.shelf book.put view) key))
    (hall : serveResource stores a.stamp a.uptime a.request book.resource =
      registryAnswer 200 (listJson book.toJson)
        (stored (onShelf book.shelf book.put (SwitchedShelf.list view))))
    (hperm : ∀ s : Shelf ρ, (view s).Perm s.records)
    (hsorted : ∀ s, (view s).Pairwise fun x y ↦ ¬ (created x).precedes (created y) = true) :
    book.Reading single created origins a r := by
  have hnot : a.request.method ≠ "OPTIONS" := ne_of_eq_of_ne hmethod (by decide)
  refine ⟨fun segment key hresource hkey hfound ↦ ?_, fun hresource hlisted ↦ ?_⟩
  · obtain ⟨hstatus, hbody, -⟩ := serveRegistry_eq origins a.stamp a.uptime r hnot hresource
    rw [hsingle] at hstatus hbody
    rw [serve, hstatus] at hfound
    obtain ⟨record, hrecord, htold⟩ := body?_found book view entity name hkey r hfound
    exact ⟨record, hrecord, hbody.trans htold⟩
  · obtain ⟨hstatus, hbody, -⟩ := serveRegistry_eq origins a.stamp a.uptime r hnot hresource
    rw [hall] at hstatus hbody
    rw [serve, hstatus] at hlisted
    have htold := body?_listed book view (listJson book.toJson) r hlisted
    exact ⟨view (book.shelf r).shelf, hbody.trans htold, hperm _, hsorted _⟩

/-- A listing of contributions that is asked for without naming any criterion has all of them. -/
theorem listed_contributions (origins : List String) {a : Arrival} (r : Registry)
    (hmethod : a.request.method = "GET") (hresource : a.resource? = some .contributions)
    {q : ListingQuery} (hquery : ListingQuery.read a.request.target = .ok q)
    (hall : ContributionFilter.ofParams q.rssbNumber q.period q.matricule = .ok .all)
    (hlisted : status? (serve origins a r).1 = some 200) :
    ∃ list, body? (serve origins a r).1 = some (Contribution.listToJson list).render ∧
      list.Perm r.contributions.shelf.records := by
  have hnot : a.request.method ≠ "OPTIONS" := ne_of_eq_of_ne hmethod (by decide)
  have hserves : serveResource stores a.stamp a.uptime a.request .contributions =
      registryAnswer 200 Contribution.listToJson (stored (onShelf contributionBook.shelf
        contributionBook.put (SwitchedShelf.list fun shelf ↦ shelf.contributions .all))) := by
    have hserves : serveResource stores a.stamp a.uptime a.request .contributions =
        serveContributions stores a.request := dispatch_get hmethod ..
    rw [hserves]
    simp only [serveContributions, hquery, hall]
    rfl
  obtain ⟨hstatus, hbody, -⟩ := serveRegistry_eq origins a.stamp a.uptime r hnot hresource
  rw [hserves] at hstatus hbody
  rw [serve, hstatus] at hlisted
  have htold := body?_listed contributionBook (fun shelf ↦ shelf.contributions .all)
    Contribution.listToJson r hlisted
  refine ⟨_, hbody.trans htold, ?_⟩
  have hfilter : r.contributions.shelf.records.filter (ContributionFilter.matches? .all) =
      r.contributions.shelf.records := List.filter_eq_self.2 fun _ _ ↦ rfl
  have hperm := r.contributions.shelf.perm_contributions .all
  rwa [hfilter] at hperm

end

/-! ### Histories -/

/-- What was stored stands where it stood, and is found under its key. -/
structure Kept (earlier now : Registry) : Prop where
  /-- Employees are found under their RSSB numbers. -/
  employees : ∀ e ∈ earlier.employees.shelf.records,
    now.employees.shelf.find? e.rssbNumber = some e
  /-- Employers are found under their registration numbers. -/
  employers : ∀ e ∈ earlier.employers.shelf.records, now.employers.shelf.find? e.matricule = some e
  /-- Contributions are found under their identifiers. -/
  contributions : ∀ c ∈ earlier.contributions.shelf.records,
    now.contributions.shelf.find? c.id = some c

/-- What shelves that only grow have kept. -/
theorem Grown.kept {earlier now : Registry} (h : Grown earlier now) : Kept earlier now where
  employees _ he := Shelf.find?_of_prefix h.employees (Shelf.find?_of_mem he)
  employers _ he := Shelf.find?_of_prefix h.employers (Shelf.find?_of_mem he)
  contributions _ hc := Shelf.find?_of_prefix h.contributions (Shelf.find?_of_mem hc)

/-- **What a registry answers**, whatever came before. A request that posts a record makes it just
if its body can be used, no employee or employer has its key, and the store works; the body of the
response is the record that was stored. If the body cannot be used, the status is 400 and the store
is not even asked. Any request that makes no record leaves all records alone. What was stored before
stands under its key, and is what a request for it is told; a listing of everything has each record
once, and those of employees and employers do not get newer. -/
theorem requests_answered (origins : List String) (start : Registry) (past : List Event)
    (a : Arrival) (hfresh : Fresh start (past ++ [.arrival a])) :
    let now := after origins start past
    (a.request.method = "POST" →
      (a.resource? = some .employees →
        employeeBook.Posting (fun e ↦ now.employees.shelf.taken e.rssbNumber = true) origins a
          now) ∧
      (a.resource? = some .employers →
        employerBook.Posting (fun e ↦ now.employers.shelf.taken e.matricule = true) origins a now) ∧
      (a.resource? = some .contributions →
        contributionBook.Posting (fun _ ↦ False) origins a now)) ∧
    (status? (serve origins a now).1 ≠ some 201 → Same now (serve origins a now).2) ∧
    (∀ earlier later, past = earlier ++ later → Kept (after origins start earlier) now) ∧
    (a.request.method = "GET" →
      employeeBook.Reading .employee Employee.createdAt origins a now ∧
      employerBook.Reading .employer Employer.createdAt origins a now ∧
      (a.resource? = some .contributions → ∀ q, ListingQuery.read a.request.target = .ok q →
        ContributionFilter.ofParams q.rssbNumber q.period q.matricule = .ok .all →
        status? (serve origins a now).1 = some 200 →
        ∃ list, body? (serve origins a now).1 = some (Contribution.listToJson list).render ∧
          list.Perm now.contributions.shelf.records)) := by
  intro now
  refine ⟨fun hmethod ↦ ⟨fun hresource ↦ ?_, fun hresource ↦ ?_, fun hresource ↦ ?_⟩, ?_,
    fun earlier later hsplit ↦ ?_, fun hmethod ↦ ⟨?_, ?_, fun hresource q hquery hall hlisted ↦ ?_⟩⟩
  · exact employeeBook.posting origins hmethod hresource fun _ ↦ Iff.rfl
  · exact employerBook.posting origins hmethod hresource fun _ ↦ Iff.rfl
  -- a fresh identifier is free, so a contribution never finds its key in use
  · refine contributionBook.posting origins hmethod hresource fun _ ↦ ⟨False.elim, fun htaken ↦ ?_⟩
    cases hfresh.not_taken.symm.trans htaken
  · intro hstatus
    rcases change_serve origins a now with hsame | hadded | hadded | hadded
    · exact hsame
    all_goals exact absurd hadded.status hstatus
  -- what was stored earlier is kept because the rest of the past only makes shelves grow
  · have hnow : now = after origins (after origins start earlier) later :=
      (congrArg (after origins start) hsplit).trans (History.run_append earlier later)
    have hgrown : Grown (after origins start earlier) now := hnow ▸ grown_after later
    exact hgrown.kept
  · exact employeeBook.reading Shelf.employees "employee" "rssb_number" origins now hmethod
      (fun _ ↦ dispatch_get hmethod ..) (dispatch_get hmethod ..) Shelf.perm_employees
      Shelf.pairwise_employees
  · exact employerBook.reading Shelf.employers "employer" "matricule" origins now hmethod
      (fun _ ↦ dispatch_get hmethod ..) (dispatch_get hmethod ..) Shelf.perm_employers
      Shelf.pairwise_employers
  · exact listed_contributions origins now hmethod hresource hquery hall hlisted

/-- A request at the start of 1970. -/
def arriving (id method path text : String) : Arrival where
  request :=
    { method, target := ⟨path.toList, none⟩, headers := [("content-type", "application/json")],
      body := Text.Utf8.encode text.toList }
  id := id
  clock := .startOf .epoch
  regular := by decide
  uptime := 0

/-- A request that posts a text for a contribution. -/
def posting (id text : String) : Arrival := arriving id "POST" "/api/v1/contributions" text

/-- A request that posts an employer under the key 3B. -/
def founding (id name : String) : Arrival :=
  arriving id "POST" "/api/v1/employers"
    ("\x7b\"name\":\"" ++ name ++ "\",\"matricule\":\"3B\"\x7d")

/-- An employer is stored, and the store of contributions fails from then on. Another employer under
the key is not stored, and the first one stands there still, alone, and is told to those who ask; a
text for a contribution that breaks off is refused although no contribution could be stored. -/
theorem requests_answered_taken :
    let past : List Event := [.arrival (founding "a" "Ann"), .switched {} {} { create := true }]
    let now := after ["*"] {} past
    let ann := NewEmployer.enter ⟨"Ann", "3B"⟩ (founding "a" "Ann").stamp
    let question := arriving "c" "GET" "/api/v1/employers/3B" ""
    let listing := arriving "c" "GET" "/api/v1/employers" ""
    status? (serve ["*"] (founding "a" "Ann") {}).1 = some 201 ∧
    now.employers.shelf.find? "3B" = some ann ∧
    status? (serve ["*"] (founding "b" "Bob") now).1 ≠ some 201 ∧
    Same now (serve ["*"] (founding "b" "Bob") now).2 ∧
    body? (serve ["*"] question now).1 = some ann.toJson.render ∧
    body? (serve ["*"] listing now).1 = some (listJson Employer.toJson [ann]).render ∧
    status? (serve ["*"] (posting "d" "[") now).1 = some 400 ∧
    (serve ["*"] (posting "d" "[") now).2 = now := by
  intro past now ann question listing
  -- the first one is stored: its body can be used, the key is free and the store works
  have hann : decodeBody NewEmployer.ofJson (founding "a" "Ann").request = .ok ⟨"Ann", "3B"⟩ := by
    decide +kernel
  obtain ⟨hposts, -⟩ := requests_answered ["*"] {} [] (founding "a" "Ann") (by decide)
  rw [show after ["*"] {} [] = {} from rfl] at hposts
  have hposting := (hposts rfl).2.1 (by decide)
  have hstored : status? (serve ["*"] (founding "a" "Ann") {}).1 = some 201 :=
    hposting.made_iff.2 ⟨_, hann, by decide +kernel, by decide, rfl⟩
  obtain ⟨input, s, hinput, -, hgrown, hleft⟩ := hposting.made hstored
  cases hann.symm.trans hinput
  have hserved : (serve ["*"] (founding "a" "Ann") {}).2.employers.shelf.records = [ann] := by
    rw [hleft]
    exact hgrown
  -- what fails from then on takes nothing away
  have hfirst (a : Arrival) : after ["*"] {} [.arrival a] = (serve ["*"] a {}).2 := rfl
  have hshelf (a : Arrival) (faults : StoreFaults) :
      (after ["*"] {} [.arrival a, .switched {} {} faults]).employers.shelf =
        (serve ["*"] a {}).2.employers.shelf := rfl
  have hrecords : now.employers.shelf.records = [ann] := by rw [hshelf, hserved]
  have hmem : ann ∈ (after ["*"] {} [.arrival (founding "a" "Ann")]).employers.shelf.records := by
    rw [hfirst, hserved]
    exact List.mem_singleton_self ann
  obtain ⟨hposts, hsame, hkept, -⟩ :=
    requests_answered ["*"] {} past (founding "b" "Bob") (by decide)
  have hfind : now.employers.shelf.find? "3B" = some ann :=
    (hkept [.arrival (founding "a" "Ann")] [.switched {} {} { create := true }] rfl).employers
      ann hmem
  -- the second one finds the key in use
  have hbob : decodeBody NewEmployer.ofJson (founding "b" "Bob").request = .ok ⟨"Bob", "3B"⟩ := by
    decide +kernel
  have hrefused : status? (serve ["*"] (founding "b" "Bob") now).1 ≠ some 201 := by
    intro hstatus
    obtain ⟨input, hinput, -, hfree, -⟩ := ((hposts rfl).2.1 (by decide)).made_iff.1 hstatus
    cases hbob.symm.trans hinput
    exact hfree (Shelf.taken_iff.2 ⟨ann, hfind⟩)
  -- whoever asks is told of the first one
  obtain ⟨-, -, -, hreads⟩ := requests_answered ["*"] {} past question (by decide)
  obtain ⟨record, hrecord, htold⟩ := (hreads rfl).2.1.found ['3', 'B'] "3B" (by decide)
    (by decide +kernel) (by decide +kernel)
  cases hfind.symm.trans hrecord
  obtain ⟨-, -, -, hreads⟩ := requests_answered ["*"] {} past listing (by decide)
  obtain ⟨list, hlisted, hperm, -⟩ := (hreads rfl).2.1.listed (by decide) (by decide +kernel)
  rw [show employerBook.shelf now = now.employers from rfl, hrecords, List.perm_singleton] at hperm
  subst hperm
  -- a text that breaks off is refused before the store is asked
  have htorn : decodeBody NewContribution.ofJson (posting "d" "[").request =
      .error (.refused (.invalidInput "Failed to parse the request body as JSON")) := by
    decide +kernel
  obtain ⟨hposts, -⟩ := requests_answered ["*"] {} past (posting "d" "[") (by decide)
  have hunasked := ((hposts rfl).2.2 (by decide)).refused (.inl ⟨_, htorn⟩)
  exact ⟨hstored, hfind, hrefused, hsame hrefused, htold, hlisted, hunasked⟩

end ContributionRegistry.Deployment.Registry
