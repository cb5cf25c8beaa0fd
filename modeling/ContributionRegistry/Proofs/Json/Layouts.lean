import ContributionRegistry.Json.Decoding

/-!
# Opening what a layout wrote

A record is written as an object with all the fields of its layout, in order. Opening such an object
meets each field once, by its own name, so all that can go wrong is a value that does not fit its
field: opening is checking the values one after the other (`Layout.open_object`), and if all fit,
the record is opened to them (`Layout.open_of_fits`).

The record is given as its fields paired with their values. A layout has each name once, so a name
leads to its own field (`find?_name`), no field comes twice, and none is missing.
-/

namespace ContributionRegistry.Json

/-- Checks that values fit their fields, one after the other. -/
def checkFields : List (Field × Json) → Decoded Unit
  | [] => .ok ()
  | (field, value) :: rest => do
    (field.fits value).at (.field field.name)
    checkFields rest

/-- The members of an object with these fields. -/
def membersOf (pairs : List (Field × Json)) : List (Option String × Json) :=
  pairs.map fun (field, value) ↦ member field.name value

/-- Values under the names of their fields. -/
def namedOf (pairs : List (Field × Json)) : Opened :=
  pairs.map fun (field, value) ↦ (field.name, value)

/-- Among fields with different names, a field is found by its name. -/
theorem find?_name {fields : List Field} (hd : (fields.map Field.name).Nodup) {field : Field}
    (h : field ∈ fields) : fields.find? (·.name == field.name) = some field := by
  induction fields with
  | nil => cases h
  | cons f fields ih =>
    rw [List.map_cons, List.nodup_cons] at hd
    rcases List.mem_cons.1 h with rfl | hmem
    · simp
    · have hne : f.name ≠ field.name := fun he ↦
        hd.1 (he ▸ List.mem_map_of_mem hmem)
      rw [List.find?_cons_of_neg (by simpa using hne), ih hd.2 hmem]

/-- **Going through members that fields were written to**: each is met for the first time, and what
is left is checking its value. -/
theorem openMembers_membersOf {fields : List Field} {pairs : List (Field × Json)} (seen : Opened)
    (hfind : ∀ p ∈ pairs, fields.find? (·.name == p.1.name) = some p.1)
    (hseen : ∀ p ∈ pairs, seen.any (·.1 == p.1.name) = false)
    (hd : (pairs.map fun p ↦ p.1.name).Nodup) :
    openMembers fields seen (membersOf pairs) =
      (checkFields pairs).map fun _ ↦ seen ++ namedOf pairs := by
  induction pairs generalizing seen with
  | nil => simp [membersOf, openMembers, checkFields, namedOf, Except.map]
  | cons p pairs ih =>
    rw [List.map_cons, List.nodup_cons] at hd
    -- the names to come are neither this one nor among those seen before
    have hrest := ih (seen ++ [(p.1.name, p.2)])
      (fun q hq ↦ hfind q (List.mem_cons_of_mem _ hq))
      (fun q hq ↦ by
        have hne : p.1.name ≠ q.1.name := fun he ↦
          hd.1 (he ▸ List.mem_map_of_mem (f := fun q : Field × Json ↦ q.1.name) hq)
        simpa [hne] using hseen q (List.mem_cons_of_mem _ hq))
      hd.2
    show openMembers fields seen ((some p.1.name, p.2) :: membersOf pairs) = _
    rw [openMembers, hfind p List.mem_cons_self]
    simp only [hseen p List.mem_cons_self, Bool.false_eq_true, if_false, hrest]
    rw [checkFields]
    cases (p.1.fits p.2).at (.field p.1.name) with
    | error e => rfl
    | ok u =>
      cases checkFields pairs with
      | error e => rfl
      | ok u => simp [namedOf, Except.map, bind, Except.bind]

theorem checkFields_eq_ok {pairs : List (Field × Json)}
    (h : ∀ p ∈ pairs, p.1.fits p.2 = .ok ()) : checkFields pairs = .ok () := by
  induction pairs with
  | nil => rfl
  | cons p pairs ih =>
    obtain ⟨hfits, hrest⟩ := List.forall_mem_cons.1 h
    rw [checkFields, hfits, ih hrest]
    rfl

/-- A record with a value for each of its fields lacks none. -/
theorem requireAll_eq_ok {seen : Opened} {fields : List Field}
    (h : ∀ field ∈ fields, seen.any (·.1 == field.name) = true) :
    requireAll seen fields = .ok () := by
  induction fields with
  | nil => rfl
  | cons field fields ih =>
    rw [requireAll, h field List.mem_cons_self]
    simp [ih fun f hf ↦ h f (List.mem_cons_of_mem _ hf)]

/-- **Opening an object with the fields of a layout** is checking its values. -/
theorem Layout.open_object {l : Layout} {pairs : List (Field × Json)}
    (hl : pairs.map Prod.fst = l.fields) (hd : (l.fields.map Field.name).Nodup) :
    l.open (.object (membersOf pairs)) = (checkFields pairs).map fun _ ↦ namedOf pairs := by
  have hmem (p : Field × Json) (hp : p ∈ pairs) : p.1 ∈ l.fields :=
    hl ▸ List.mem_map_of_mem hp
  have hnames : (pairs.map fun p ↦ p.1.name) = l.fields.map Field.name := by
    rw [← hl, List.map_map]
    rfl
  have hopen : openMembers l.fields [] (membersOf pairs) =
      (checkFields pairs).map fun _ ↦ [] ++ namedOf pairs :=
    openMembers_membersOf [] (fun p hp ↦ find?_name hd (hmem p hp)) (fun _ _ ↦ rfl) (hnames ▸ hd)
  have hall : requireAll (namedOf pairs) l.fields = .ok () := by
    refine requireAll_eq_ok fun field hfield ↦ ?_
    rw [← hl] at hfield
    obtain ⟨p, hp, rfl⟩ := List.mem_map.1 hfield
    have hnamed : (p.1.name, p.2) ∈ namedOf pairs := List.mem_map.2 ⟨p, hp, rfl⟩
    exact List.any_eq_true.2 ⟨_, hnamed, by simp⟩
  rw [Layout.open, hopen]
  cases checkFields pairs with
  | error e => rfl
  | ok u =>
    show (do requireAll (namedOf pairs) l.fields; pure (namedOf pairs) : Decoded Opened) = _
    rw [hall]
    rfl

/-- An object whose values fit is opened as it was written. -/
theorem Layout.open_of_fits {l : Layout} {pairs : List (Field × Json)}
    (hl : pairs.map Prod.fst = l.fields) (hd : (l.fields.map Field.name).Nodup)
    (hfits : ∀ p ∈ pairs, p.1.fits p.2 = .ok ()) :
    l.open (.object (membersOf pairs)) = .ok (namedOf pairs) := by
  rw [open_object hl hd, checkFields_eq_ok hfits]
  rfl

end ContributionRegistry.Json
