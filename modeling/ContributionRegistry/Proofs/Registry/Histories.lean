import ContributionRegistry.Proofs.History
import ContributionRegistry.Proofs.Records.Listings
import ContributionRegistry.Proofs.Registry.Requests

/-!
# Histories of a registry

A registry through any requests, while its stores fail and work again. What one request does is
known (`Change`), so a history is the run of the steps, and two facts about it serve everywhere.

* **Shelves only grow** (`grown_after`): whatever happens, the records that stood on them stand
  there still, in the same places. It goes by `History.run_grows`, since growing goes on from step
  to step.
* **The identifiers** on the shelf of contributions are those that were there at the start or were
  drawn since (`ids_after`). So if no identifier is drawn twice (`Fresh`), a new one is always free
  (`Fresh.not_taken`), and posting a contribution never fails for its key.

An `Arrival` is a request with all that the service takes from its surroundings to answer it: the
identifier that it draws, the clock, and how long it has been up.
-/

namespace ContributionRegistry.Deployment.Registry

open Calendar (Timestamp)
open Http (Request Response)
open Service

/-! ### Requests one after another -/

/-- A request, with what is drawn and read while it is served. -/
structure Arrival where
  /-- The request that comes in. -/
  request : Request
  /-- The identifier that is drawn for a new record. -/
  id : String
  /-- What the clock shows, which knows no leap seconds. -/
  clock : Timestamp
  /-- It is within its minute. -/
  regular : clock.second < 60
  /-- For how many seconds the service has been up. -/
  uptime : Nat

/-- What goes into a record that the request makes. -/
def Arrival.stamp (a : Arrival) : Stamp := ⟨a.id, a.clock.wholeMillis⟩

/-- The resource that the request is for. -/
def Arrival.resource? (a : Arrival) : Option RegistryResource :=
  RegistryResource.ofPath? a.request.target.path

/-- What happens to a registry. -/
inductive Event where
  /-- A request comes in. -/
  | arrival (a : Arrival)
  /-- From now on other calls on the stores fail. -/
  | switched (employees employers contributions : StoreFaults)

/-- The identifiers that are drawn. -/
def Event.ids : Event → List String
  | .arrival a => [a.id]
  | .switched .. => []

/-- Serves a request; the service grants the origins. -/
def serve (origins : List String) (a : Arrival) : Serving Registry :=
  serveRegistry stores origins a.stamp a.uptime a.request

/-- What an event leaves behind. -/
def step (origins : List String) (r : Registry) : Event → Registry
  | .arrival a => (serve origins a r).2
  | .switched employees employers contributions => {
      employees := { r.employees with faults := employees }
      employers := { r.employers with faults := employers }
      contributions := { r.contributions with faults := contributions } }

/-- What events leave behind, one after another. -/
def after (origins : List String) (r : Registry) (events : List Event) : Registry :=
  History.run (step origins) r events

/-- No identifier is drawn twice, and none that a contribution has already. -/
def Fresh (start : Registry) (events : List Event) : Prop :=
  (start.contributions.shelf.records.map Contribution.id ++ events.flatMap Event.ids).Nodup

instance (start : Registry) (events : List Event) : Decidable (Fresh start events) :=
  inferInstanceAs (Decidable (List.Nodup _))

variable {origins : List String} {start r r' r'' : Registry} {a : Arrival}

/-- What a request does to the registry, whatever is said about origins. -/
theorem change_serve (origins : List String) (a : Arrival) (r : Registry) :
    Change a.stamp a.request r (serve origins a r).1 (serve origins a r).2 :=
  change_serveRegistry origins

/-! ### Shelves only grow -/

/-- Nothing that stood on a shelf is changed or gone. -/
structure Grown (r r' : Registry) : Prop where
  /-- The employees stand where they stood. -/
  employees : r.employees.shelf.records <+: r'.employees.shelf.records
  /-- The employers stand where they stood. -/
  employers : r.employers.shelf.records <+: r'.employers.shelf.records
  /-- The contributions stand where they stood. -/
  contributions : r.contributions.shelf.records <+: r'.contributions.shelf.records

/-- Shelves that stay the same have grown by nothing. -/
theorem Same.grown (h : Same r r') : Grown r r' where
  employees := h.employees ▸ List.prefix_rfl
  employers := h.employers ▸ List.prefix_rfl
  contributions := h.contributions ▸ List.prefix_rfl

theorem Grown.trans (h : Grown r r') (h' : Grown r' r'') : Grown r r'' where
  employees := h.employees.trans h'.employees
  employers := h.employers.trans h'.employers
  contributions := h.contributions.trans h'.contributions

/-- What a request does makes shelves grow at most. -/
theorem Change.grown {stamp : Stamp} {request : Request} {response : Option Response}
    (h : Change stamp request r response r') : Grown r r' := by
  rcases h with hsame | hadded | hadded | hadded
  · exact hsame.grown
  · obtain ⟨⟨input, s, -, -, hgrown, rfl⟩, -⟩ := hadded
    exact ⟨⟨_, hgrown.symm⟩, List.prefix_rfl, List.prefix_rfl⟩
  · obtain ⟨⟨input, s, -, -, hgrown, rfl⟩, -⟩ := hadded
    exact ⟨List.prefix_rfl, ⟨_, hgrown.symm⟩, List.prefix_rfl⟩
  · obtain ⟨⟨input, s, -, -, hgrown, rfl⟩, -⟩ := hadded
    exact ⟨List.prefix_rfl, List.prefix_rfl, ⟨_, hgrown.symm⟩⟩

/-- One event makes shelves grow at most. -/
theorem grown_step (event : Event) : Grown r (step origins r event) := by
  cases event with
  | arrival a => exact (change_serve origins a r).grown
  | switched employees employers contributions =>
    exact ⟨List.prefix_rfl, List.prefix_rfl, List.prefix_rfl⟩

/-- **Shelves only grow**, whatever happens. -/
theorem grown_after (events : List Event) : Grown r (after origins r events) :=
  History.run_grows (fun r ↦ (Same.refl r).grown) Grown.trans (fun _ ↦ grown_step) events

/-! ### Identifiers of contributions -/

/-- A contribution was there before the event or has an identifier that the event drew. -/
theorem ids_step (event : Event) {c : Contribution}
    (hc : c ∈ (step origins r event).contributions.shelf.records) :
    c ∈ r.contributions.shelf.records ∨ c.id ∈ event.ids := by
  cases event with
  | switched employees employers contributions => exact .inl hc
  | arrival a =>
    rw [step] at hc
    rcases change_serve origins a r with hsame | ⟨hadded, -⟩ | ⟨hadded, -⟩ | ⟨hadded, -⟩
    · rw [hsame.contributions] at hc
      exact .inl hc
    · obtain ⟨input, s, -, -, -, heq⟩ := hadded
      rw [heq] at hc
      exact .inl hc
    · obtain ⟨input, s, -, -, -, heq⟩ := hadded
      rw [heq] at hc
      exact .inl hc
    · obtain ⟨input, s, -, -, hgrown, heq⟩ := hadded
      rw [heq] at hc
      change c ∈ s.shelf.records at hc
      rw [hgrown] at hc
      rcases List.mem_append.1 hc with hc | hc
      · exact .inl hc
      · rw [List.mem_singleton.1 hc]
        exact .inr (List.mem_singleton_self a.id)

/-- **Where identifiers come from**: they were there at the start, or have been drawn. -/
theorem ids_after {events : List Event} {c : Contribution}
    (hc : c ∈ (after origins start events).contributions.shelf.records) :
    c.id ∈ start.contributions.shelf.records.map Contribution.id ++ events.flatMap Event.ids := by
  refine History.run_induction (step origins) (P := fun past r ↦
    ∀ c ∈ r.contributions.shelf.records,
      c.id ∈ start.contributions.shelf.records.map Contribution.id ++ past.flatMap Event.ids)
    ?_ ?_ events c hc
  · intro c hc
    exact List.mem_append_left _ (List.mem_map_of_mem hc)
  · intro past event ih c hc
    rw [List.flatMap_append, ← List.append_assoc, List.flatMap_singleton]
    rcases ids_step event hc with hold | hnew
    · exact List.mem_append_left _ (ih c hold)
    · exact List.mem_append_right _ hnew

/-- An identifier that is drawn is not taken. -/
theorem Fresh.not_taken {past : List Event} (h : Fresh start (past ++ [.arrival a])) :
    (after origins start past).contributions.shelf.taken a.id = false := by
  rw [Bool.eq_false_iff]
  intro htaken
  obtain ⟨c, hc⟩ := Shelf.taken_iff.1 htaken
  obtain ⟨hmem, hid⟩ := Shelf.find?_eq_some hc
  have hdrawn := ids_after hmem
  unfold Fresh at h
  rw [List.flatMap_append, ← List.append_assoc] at h
  have hdisjoint := (List.nodup_append.1 h).2.2 _ hdrawn a.id (List.mem_singleton_self a.id)
  exact hdisjoint hid

end ContributionRegistry.Deployment.Registry
