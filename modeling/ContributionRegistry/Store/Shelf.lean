import ContributionRegistry.Records.Order
import ContributionRegistry.Records.Filter
import ContributionRegistry.Store.Error

/-!
# Shelves

Records of one kind held in memory, in the order in which they came, no two under one key. A new
record is put at the end or, if its key is taken, not at all: nothing that stands on a shelf is ever
changed or removed.

That no two records have one key is part of a shelf, so it is proved where a record is added
(`Shelf.add?`) and nowhere else. What a key is depends on the kind of record (`Keyed`);
contributions have no key of their own but their identifier.

The order of insertion shows only in listings of contributions that are equal in period and time.
Employees and employers are put in the order of their keys before they are listed.
-/

namespace ContributionRegistry

/-- Records that are told apart by a key. -/
class Keyed (ρ : Type) where
  /-- What a record of this kind is called. -/
  entity : String
  /-- What a record is looked up by. -/
  key : ρ → String

instance : Keyed Employee := ⟨"employee", Employee.rssbNumber⟩

instance : Keyed Employer := ⟨"employer", Employer.matricule⟩

instance : Keyed Contribution := ⟨"contribution", Contribution.id⟩

/-- Records in the order in which they came, no two under one key. -/
structure Shelf (ρ : Type) [Keyed ρ] where
  /-- The records, the oldest one first. -/
  records : List ρ
  /-- No two records have one key. -/
  distinct : records.Pairwise fun a b ↦ Keyed.key a ≠ Keyed.key b

namespace Shelf

variable {ρ : Type} [Keyed ρ]

/-- The shelf with nothing on it. -/
def empty : Shelf ρ := ⟨[], .nil⟩

/-- The record under a key. -/
def find? (s : Shelf ρ) (key : String) : Option ρ :=
  s.records.find? fun r ↦ Keyed.key r == key

/-- Whether a key is taken. -/
def taken (s : Shelf ρ) (key : String) : Bool :=
  s.records.any fun r ↦ Keyed.key r == key

/-- A key that is not taken differs from the key of every record. -/
theorem key_ne_of_not_taken {s : Shelf ρ} {key : String} (h : ¬ s.taken key = true) :
    ∀ r ∈ s.records, Keyed.key r ≠ key := by
  intro r hr e
  exact h (List.any_eq_true.2 ⟨r, hr, by simp [e]⟩)

/-- The shelf with one more record, unless the key is taken. -/
def add? (s : Shelf ρ) (r : ρ) : Option (Shelf ρ) :=
  if h : s.taken (Keyed.key r) = true then none
  else some ⟨s.records ++ [r], List.pairwise_append.2
    ⟨s.distinct, List.pairwise_singleton .., fun q hq r' hr' ↦ by
      rw [List.mem_singleton.1 hr']; exact key_ne_of_not_taken h q hq⟩⟩

/-- The refusal of a record whose key is taken. -/
def conflict (r : ρ) : StoreError := .conflict (Keyed.entity ρ) (Keyed.key r)

/-- Puts a record on the shelf, or refuses it. -/
def create (s : Shelf ρ) (r : ρ) : Except StoreError ρ × Shelf ρ :=
  match s.add? r with
  | some s' => (.ok r, s')
  | none => (.error (conflict r), s)

/-- The records in the order of their keys. -/
def byKey (s : Shelf ρ) : List ρ :=
  s.records.mergeSort fun a b ↦ !decide (Keyed.key b < Keyed.key a)

/-! ### Small facts -/

/-- There is nothing on the empty shelf. -/
theorem records_empty : (empty : Shelf ρ).records = [] := rfl

/-- A record that is added stands at the end. -/
theorem records_add? {s s' : Shelf ρ} {r : ρ} (h : s.add? r = some s') :
    s'.records = s.records ++ [r] := by
  unfold add? at h
  split at h
  · cases h
  · cases h; rfl

/-- A record is refused just if its key is taken. -/
theorem add?_eq_none_iff {s : Shelf ρ} {r : ρ} :
    s.add? r = none ↔ s.taken (Keyed.key r) = true := by
  unfold add?
  split <;> simp_all

end Shelf

/-- The employees of a shelf, newest first, equally new ones by key. -/
def Shelf.employees (s : Shelf Employee) : List Employee := Employee.listing s.byKey

/-- The employers of a shelf, newest first, equally new ones by key. -/
def Shelf.employers (s : Shelf Employer) : List Employer := Employer.listing s.byKey

/-- The contributions of a shelf that a filter lets through, in the order of a listing. -/
def Shelf.contributions (s : Shelf Contribution) (filter : ContributionFilter) :
    List Contribution :=
  Contribution.listing (s.records.filter filter.matches?)

end ContributionRegistry
