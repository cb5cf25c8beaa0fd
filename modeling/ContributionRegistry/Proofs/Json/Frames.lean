import ContributionRegistry.Proofs.Json.Layouts

/-!
# Records around one value

What becomes of a record when another value stands for one of its fields, and what it takes for
reading a record to be abandoned. Both are said of layouts in general, before any particular record.

A **frame** is a record without the value of one of its fields, be it an object or an array. If a
record is opened with one value in the frame, then with another value opening it is checking that
value, and nothing else changes (`Layout.open_plug`): the values before it are taken as they were,
and those after it do not ask for it.

Opening a record is abandoned exactly where checking the value of a field is that it comes to
(`Layout.open_eq_abandoned_iff`). A record is gone through from the front, so it comes to a value if
all before it are taken (`Frame.Reaches`); refusals further on play no part. Both statements are by
induction on the members of the object or the items of the array, with what has been seen so far
left open.
-/

namespace ContributionRegistry.Json

/-- What stands before and after a value in a record. -/
inductive Frame where
  /-- The members of an object before and after it. -/
  | object (before after : List (Option String × Json))
  /-- The items of an array before and after it. -/
  | array (before after : List Json)

namespace Frame

/-- The record with a value for the field. -/
def plug (name : String) (v : Json) : Frame → Json
  | .object before after => .object (before ++ (some name, v) :: after)
  | .array before after => .array (before ++ v :: after)

/-- The place of the value. -/
def place (name : String) : Frame → Place
  | .object _ _ => .field name
  | .array before _ => .index before.length

/-- In an array the value stands where the layout has the field. -/
def Holds (l : Layout) (field : Field) : Frame → Prop
  | .object _ _ => field ∈ l.fields
  | .array before _ => l.fields[before.length]? = some field

/-- The values before are taken, none of them for the field. -/
def Reaches (l : Layout) (name : String) : Frame → Prop
  | .object before _ =>
    ∃ seen, openMembers l.fields [] before = .ok seen ∧ seen.any (·.1 == name) = false
  | .array before _ => ∀ p ∈ l.fields.zip before, p.1.fits p.2 = .ok ()

theorem Holds.mem {l : Layout} {field : Field} {f : Frame} (h : f.Holds l field) :
    field ∈ l.fields := by
  cases f with
  | object before after => exact h
  | array before after => exact List.mem_of_getElem? h

end Frame

namespace Opened

/-- The values with another one under a name. -/
def set (o : Opened) (name : String) (v : Json) : Opened :=
  o.map fun (n, w) ↦ if n = name then (n, v) else (n, w)

variable {o : Opened} {name other : String} {v : Json}

theorem any_set (o : Opened) (name other : String) (v : Json) :
    (o.set name v).any (·.1 == other) = o.any (·.1 == other) := by
  rw [set, List.any_map]
  congr 1
  funext ⟨n, w⟩
  simp only [Function.comp_apply]
  split <;> rfl

theorem set_append (o o' : Opened) (name : String) (v : Json) :
    Opened.set (o ++ o') name v = o.set name v ++ o'.set name v := List.map_append

/-- Where nothing stands under a name, nothing is replaced. -/
theorem set_of_not_any (h : o.any (·.1 == name) = false) : o.set name v = o := by
  refine (List.map_congr_left fun ⟨n, w⟩ hmem ↦ ?_).trans (List.map_id o)
  have hne : n ≠ name := by simpa using List.any_eq_false.1 h _ hmem
  simp [hne]

theorem lookup_set_ne (hne : other ≠ name) : (o.set name v).lookup other = o.lookup other := by
  induction o with
  | nil => rfl
  | cons p o ih =>
    obtain ⟨n, w⟩ := p
    rw [set, List.map_cons, ← set]
    by_cases hn : n = name
    · have hother : (other == n) = false := by simpa [hn] using hne
      simp only [hn, if_true, List.lookup_cons] at hother ⊢
      simp [hother, ih]
    · simp only [hn, if_false, List.lookup_cons, ih]

theorem lookup_set (h : o.any (·.1 == name) = true) : (o.set name v).lookup name = some v := by
  induction o with
  | nil => cases h
  | cons p o ih =>
    obtain ⟨n, w⟩ := p
    rw [set, List.map_cons, ← set]
    by_cases hn : n = name
    · simp [hn]
    · have hother : (name == n) = false := by simpa using Ne.symm hn
      rw [List.any_cons, Bool.or_eq_true] at h
      simp only [hn, if_false, List.lookup_cons, hother]
      exact ih (h.resolve_left (by simpa using hn))

end Opened

/-! ### Another value in a frame -/

section

variable {fields : List Field} {field : Field} {seen o : Opened} {name : String}

/-- What has been seen stays in front. -/
theorem openMembers_prefix {members : List (Option String × Json)}
    (h : openMembers fields seen members = .ok o) : seen <+: o := by
  induction members generalizing seen with
  | nil => cases h; exact List.prefix_rfl
  | cons m members ih =>
    obtain ⟨_ | n, w⟩ := m
    · cases h
    · rw [openMembers] at h
      split at h
      · obtain ⟨_, -, h⟩ := bind_eq_ok h
        exact ih h
      · split at h
        · cases h
        · obtain ⟨_, -, h⟩ := bind_eq_ok h
          exact (List.prefix_append ..).trans (ih h)

/-- Members that come after do not ask for the values of those before. -/
theorem openMembers_set {members : List (Option String × Json)} (v : Json)
    (hseen : seen.any (·.1 == name) = true) (h : openMembers fields seen members = .ok o) :
    openMembers fields (seen.set name v) members = .ok (o.set name v) := by
  induction members generalizing seen with
  | nil => cases h; rfl
  | cons m members ih =>
    obtain ⟨_ | n, w⟩ := m
    · cases h
    · rw [openMembers] at h ⊢
      split at h
      -- reading asks of what it has seen only which names there are
      · obtain ⟨_, hwhole, h⟩ := bind_eq_ok h
        rw [hwhole]
        exact ih hseen h
      · next hfind =>
        rw [Opened.any_set]
        split at h
        · cases h
        · next hnew =>
          have hn : n ≠ name := by
            rintro rfl
            exact hnew hseen
          obtain ⟨_, hfits, h⟩ := bind_eq_ok h
          have hrest := ih (by rw [List.any_append, hseen, Bool.true_or]) h
          rw [Opened.set_append, Opened.set_of_not_any (o := [(n, w)]) (by simpa using hn)] at hrest
          simp only [hnew, Bool.false_eq_true, if_false, hfits]
          exact hrest

/-- Members are gone through from the front. -/
theorem openMembers_append (before after : List (Option String × Json)) :
    openMembers fields seen (before ++ after) =
      openMembers fields seen before >>= fun seen' ↦ openMembers fields seen' after := by
  induction before generalizing seen with
  | nil => rfl
  | cons m before ih =>
    obtain ⟨_ | n, w⟩ := m
    · rfl
    · rw [List.cons_append, openMembers, openMembers]
      split
      · rw [bind_assoc]
        simp only [ih]
      · split
        · rfl
        · rw [bind_assoc]
          simp only [ih]

/-- An object with another value for the field. -/
theorem openMembers_plug (hfind : fields.find? (·.name == field.name) = some field)
    {before after : List (Option String × Json)} {v₀ : Json}
    (h : openMembers fields seen (before ++ (some field.name, v₀) :: after) = .ok o) (v : Json) :
    o.any (·.1 == field.name) = true ∧
      openMembers fields seen (before ++ (some field.name, v) :: after) =
        ((field.fits v).at (.field field.name)).map fun _ ↦ o.set field.name v := by
  rw [openMembers_append] at h ⊢
  obtain ⟨seen', hbefore, h⟩ := bind_eq_ok h
  rw [hbefore, Attempt.ok_bind]
  rw [openMembers, hfind] at h ⊢
  simp only at h ⊢
  split at h
  · cases h
  · next hnew =>
    obtain ⟨_, -, h⟩ := bind_eq_ok h
    have hhere : (seen' ++ [(field.name, v₀)]).any (·.1 == field.name) = true := by simp
    refine ⟨?_, ?_⟩
    · obtain ⟨rest, rfl⟩ := openMembers_prefix h
      rw [List.any_append, hhere, Bool.true_or]
    · have hrest := openMembers_set v hhere h
      rw [Opened.set_append, Opened.set_of_not_any (Bool.eq_false_iff.2 hnew)] at hrest
      have hone : Opened.set [(field.name, v₀)] field.name v = [(field.name, v)] := by
        simp [Opened.set]
      rw [hone] at hrest
      rw [if_neg hnew]
      cases (field.fits v).at (.field field.name) with
      | error e => rfl
      | ok u => exact hrest

/-- The values of an array fit the fields that they stand for. -/
theorem fits_of_openItems {l : Layout} {i : Nat} {items : List Json}
    (h : openItems l i fields items = .ok o) :
    ∀ p ∈ o, ∃ f ∈ fields, f.name = p.1 ∧ f.fits p.2 = .ok () := by
  induction fields generalizing i items o with
  | nil =>
    cases items with
    | nil => cases h; nofun
    | cons _ _ => cases h
  | cons f fields ih =>
    cases items with
    | nil =>
      rw [openItems] at h
      split at h
      · cases h
      · intro p hp
        obtain ⟨f', hf', hname⟩ := ih h p hp
        exact ⟨f', List.mem_cons_of_mem _ hf', hname⟩
    | cons v items =>
      rw [openItems] at h
      obtain ⟨_, hfits, h⟩ := bind_eq_ok h
      obtain ⟨rest, hrest, h⟩ := bind_eq_ok h
      cases h
      intro p hp
      rcases List.mem_cons.1 hp with rfl | hp
      · exact ⟨f, List.mem_cons_self, rfl, Attempt.eq_ok_of_restate hfits⟩
      · obtain ⟨f', hf', hname⟩ := ih hrest p hp
        exact ⟨f', List.mem_cons_of_mem _ hf', hname⟩

/-- An array with another value for the field. -/
theorem openItems_plug {l : Layout} {i : Nat} {before after : List Json}
    (hfield : fields[before.length]? = some field) (hd : (fields.map Field.name).Nodup) {v₀ : Json}
    (h : openItems l i fields (before ++ v₀ :: after) = .ok o) (v : Json) :
    o.any (·.1 == field.name) = true ∧ openItems l i fields (before ++ v :: after) =
      ((field.fits v).at (.index (i + before.length))).map fun _ ↦ o.set field.name v := by
  induction before generalizing i fields o with
  | nil =>
    obtain ⟨fields, rfl⟩ : ∃ rest, fields = field :: rest := by
      cases fields with
      | nil => cases hfield
      | cons f fields => cases hfield; exact ⟨fields, rfl⟩
    rw [List.map_cons, List.nodup_cons] at hd
    rw [List.nil_append, openItems] at h ⊢
    obtain ⟨_, -, h⟩ := bind_eq_ok h
    obtain ⟨rest, hrest, h⟩ := bind_eq_ok h
    cases h
    refine ⟨by simp, ?_⟩
    -- no later value stands under the same name
    have hother : rest.any (·.1 == field.name) = false := by
      rw [List.any_eq_false]
      intro p hp heq
      obtain ⟨f, hf, hname, -⟩ := fits_of_openItems hrest p hp
      exact hd.1 (eq_of_beq heq ▸ hname ▸ List.mem_map_of_mem hf)
    rw [hrest, List.length_nil, Nat.add_zero, ← List.singleton_append, Opened.set_append,
      Opened.set_of_not_any hother]
    cases (field.fits v).at (.index i) with
    | error e => rfl
    | ok u => simp [Opened.set, Except.map, bind, Except.bind, pure, Except.pure]
  | cons w before ih =>
    obtain ⟨f, fields, rfl⟩ : ∃ f rest, fields = f :: rest := by
      cases fields with
      | nil => cases hfield
      | cons f fields => exact ⟨f, fields, rfl⟩
    rw [List.map_cons, List.nodup_cons] at hd
    have hfield' : fields[before.length]? = some field := by simpa using hfield
    have hne : f.name ≠ field.name := fun heq ↦
      hd.1 (heq ▸ List.mem_map_of_mem (List.mem_of_getElem? hfield'))
    rw [List.cons_append, openItems] at h ⊢
    obtain ⟨_, hfits, h⟩ := bind_eq_ok h
    obtain ⟨rest, hrest, h⟩ := bind_eq_ok h
    cases h
    obtain ⟨hany, hplug⟩ := ih hfield' hd.2 hrest
    refine ⟨by rw [List.any_cons, hany, Bool.or_true], ?_⟩
    rw [hfits, hplug, List.length_cons, Nat.add_assoc, Nat.add_comm 1, ← List.singleton_append,
      Opened.set_append, Opened.set_of_not_any (o := [(f.name, w)]) (by simpa using hne)]
    cases (field.fits v).at (.index (i + (before.length + 1))) with
    | error e => rfl
    | ok u => simp [Except.map, bind, Except.bind, pure, Except.pure]

theorem requireAll_set (o : Opened) (name : String) (v : Json) (fields : List Field) :
    requireAll (o.set name v) fields = requireAll o fields := by
  induction fields with
  | nil => rfl
  | cons f fields ih => rw [requireAll, requireAll, Opened.any_set, ih]

/-- **Opening a record with another value in its frame** is checking that value. -/
theorem Layout.open_plug {l : Layout} (hd : (l.fields.map Field.name).Nodup) {f : Frame}
    (hf : f.Holds l field) {v₀ : Json} (h : l.open (f.plug field.name v₀) = .ok o) (v : Json) :
    o.any (·.1 == field.name) = true ∧ l.open (f.plug field.name v) =
      ((field.fits v).at (f.place field.name)).map fun _ ↦ o.set field.name v := by
  cases f with
  | object before after =>
    rw [Frame.plug, Layout.open] at h ⊢
    obtain ⟨o', hopen, h⟩ := bind_eq_ok h
    obtain ⟨_, hrequired, h⟩ := bind_eq_ok h
    cases h
    obtain ⟨hany, hplug⟩ := openMembers_plug (find?_name hd hf) hopen v
    refine ⟨hany, ?_⟩
    rw [hplug, Frame.place]
    cases (field.fits v).at (.field field.name) with
    | error e => rfl
    | ok u =>
      show (do requireAll (o.set field.name v) l.fields; pure _ : Decoded Opened) = _
      rw [requireAll_set, hrequired]
      rfl
  | array before after =>
    rw [Frame.plug, Layout.open] at h ⊢
    have hplug := openItems_plug hf hd h v
    rwa [Nat.zero_add] at hplug

/-! ### Records that are abandoned -/

theorem refuse_ne_abandoned {ε α : Type} (reason : ε) :
    (Attempt.refuse reason : Attempt ε α) ≠ .error .abandoned := by
  intro h
  cases h

/-- A failure in other words is abandoned when it was. -/
theorem restate_eq_abandoned_iff {ε ε' α : Type} {f : ε → ε'} {x : Attempt ε α} :
    x.restate f = .error .abandoned ↔ x = .error .abandoned := by
  rcases x with (_ | _) | _
  · exact iff_of_false nofun nofun
  · exact iff_of_true rfl rfl
  · exact iff_of_false nofun nofun

/-- A step after another one is abandoned if either is. -/
theorem bind_eq_abandoned {ε α β : Type} {x : Attempt ε α} {f : α → Attempt ε β}
    (h : x >>= f = .error .abandoned) :
    x = .error .abandoned ∨ ∃ a, x = .ok a ∧ f a = .error .abandoned := by
  rcases x with (_ | _) | a
  · cases h
  · exact .inl rfl
  · exact .inr ⟨a, rfl, h⟩

theorem toAnything_ne_abandoned (v : Json) : toAnything v ≠ .error .abandoned := by
  unfold toAnything
  split <;> nofun

/-- Values of the wrong kind are refused. -/
theorem wrongKind_refuses {α : Type} (expected : String) (v : Json) :
    ∃ reason, (wrongKind expected v : Decoded α) = .error (.refused reason) := by
  cases v with
  | number literal =>
    rw [wrongKind]
    split
    all_goals exact ⟨_, rfl⟩
  | string content => cases content <;> exact ⟨_, rfl⟩
  | null | bool | array | object | broken => exact ⟨_, rfl⟩

/-- Only objects and arrays are opened. -/
theorem Layout.open_cases (l : Layout) (value : Json) : (∃ members, value = .object members) ∨
    (∃ items, value = .array items) ∨ ∃ reason, l.open value = .error (.refused reason) := by
  cases value with
  | object members => exact .inl ⟨members, rfl⟩
  | array items => exact .inr (.inl ⟨items, rfl⟩)
  | null => exact .inr (.inr (wrongKind_refuses l.description .null))
  | bool b => exact .inr (.inr (wrongKind_refuses l.description (.bool b)))
  | number literal => exact .inr (.inr (wrongKind_refuses l.description (.number literal)))
  | string content => exact .inr (.inr (wrongKind_refuses l.description (.string content)))
  | broken => exact .inr (.inr (wrongKind_refuses l.description .broken))

/-- Going through members is abandoned where checking one is that it comes to. -/
theorem openMembers_eq_abandoned_iff {members : List (Option String × Json)} :
    openMembers fields seen members = .error .abandoned ↔
      ∃ before v after f seen', members = before ++ (some (Field.name f), v) :: after ∧
        openMembers fields seen before = .ok seen' ∧ seen'.any (·.1 == f.name) = false ∧
        fields.find? (·.name == f.name) = some f ∧ f.fits v = .error .abandoned := by
  constructor
  · intro h
    induction members generalizing seen with
    | nil => cases h
    | cons m members ih =>
      obtain ⟨_ | n, w⟩ := m
      · cases h
      · rw [openMembers] at h
        -- a member of no field is passed over, one of a field is checked unless the field came
        -- before
        split at h
        · next hfind =>
          rcases bind_eq_abandoned h with h | ⟨_, hwhole, h⟩
          · exact absurd h (toAnything_ne_abandoned w)
          · obtain ⟨before, v, after, f, seen', rfl, hbefore, hf⟩ := ih h
            refine ⟨(some n, w) :: before, v, after, f, seen', rfl, ?_, hf⟩
            rw [openMembers, hfind]
            simp only [hwhole]
            exact hbefore
        · next f hfind =>
          have hname : f.name = n := by simpa using List.find?_some hfind
          split at h
          · cases h
          · next hnew =>
            rcases bind_eq_abandoned h with h | ⟨_, hfits, h⟩
            · subst hname
              exact ⟨[], w, members, f, seen, rfl, rfl, Bool.eq_false_iff.2 hnew, hfind,
                restate_eq_abandoned_iff.1 h⟩
            · obtain ⟨before, v, after, f', seen', rfl, hbefore, hf'⟩ := ih h
              refine ⟨(some n, w) :: before, v, after, f', seen', rfl, ?_, hf'⟩
              rw [openMembers, hfind]
              simp only [if_neg hnew, hfits]
              exact hbefore
  · rintro ⟨before, v, after, f, seen', rfl, hbefore, hnew, hfind, hfits⟩
    rw [openMembers_append, hbefore, Attempt.ok_bind, openMembers, hfind]
    simp only [hnew, Bool.false_eq_true, if_false, hfits]
    rfl

/-- Likewise going through items. -/
theorem openItems_eq_abandoned_iff {l : Layout} {i : Nat} {items : List Json} :
    openItems l i fields items = .error .abandoned ↔
      ∃ before v after f, items = before ++ v :: after ∧ fields[before.length]? = some f ∧
        (∀ p ∈ fields.zip before, p.1.fits p.2 = .ok ()) ∧ f.fits v = .error .abandoned := by
  induction fields generalizing i items with
  | nil => cases items <;> simp [openItems, Decoded.malformed, Attempt.refuse]
  | cons f fields ih =>
    cases items with
    | nil =>
      rw [openItems]
      refine iff_of_false ?_ (by rintro ⟨before, v, after, -, hitems, -⟩; simp at hitems)
      split
      · nofun
      · rw [ih]
        rintro ⟨before, v, after, -, hitems, -⟩
        simp at hitems
    | cons w items =>
      rw [openItems]
      constructor
      · intro h
        -- either the first item abandons the reader or a later one does
        rcases bind_eq_abandoned h with h | ⟨_, hfits, h⟩
        · exact ⟨[], w, items, f, rfl, rfl, by simp, restate_eq_abandoned_iff.1 h⟩
        · rcases bind_eq_abandoned h with h | ⟨_, -, h⟩
          · obtain ⟨before, v, after, f', rfl, hfield, hbefore, hf'⟩ := ih.1 h
            refine ⟨w :: before, v, after, f', rfl, by simpa using hfield, ?_, hf'⟩
            rw [List.zip_cons_cons, List.forall_mem_cons]
            exact ⟨Attempt.eq_ok_of_restate hfits, hbefore⟩
          · cases h
      · rintro ⟨_ | ⟨w', before⟩, v, after, f', hitems, hfield, hbefore, hf'⟩
        · cases hitems
          cases hfield
          rw [hf']
          rfl
        · rw [List.cons_append, List.cons.injEq] at hitems
          obtain ⟨rfl, rfl⟩ := hitems
          rw [List.zip_cons_cons, List.forall_mem_cons] at hbefore
          have hrest : openItems l (i + 1) fields (before ++ v :: after) = .error .abandoned :=
            ih.2 ⟨before, v, after, f', rfl, by simpa using hfield, hbefore.2, hf'⟩
          rw [hbefore.1, hrest]
          rfl

theorem requireAll_ne_abandoned (o : Opened) (fields : List Field) :
    requireAll o fields ≠ .error .abandoned := by
  intro h
  induction fields with
  | nil => cases h
  | cons f fields ih =>
    rw [requireAll] at h
    split at h
    · cases h
    · exact ih h

/-- **Opening a record is abandoned exactly where checking a value is** that it comes to. -/
theorem Layout.open_eq_abandoned_iff {l : Layout} (hd : (l.fields.map Field.name).Nodup)
    {value : Json} : l.open value = .error .abandoned ↔
      ∃ (field : Field) (f : Frame) (v : Json), f.Holds l field ∧ f.Reaches l field.name ∧
        value = f.plug field.name v ∧ field.fits v = .error .abandoned := by
  constructor
  · intro h
    rcases l.open_cases value with ⟨members, rfl⟩ | ⟨items, rfl⟩ | ⟨reason, hreason⟩
    · rcases bind_eq_abandoned h with h | ⟨o, -, h⟩
      · obtain ⟨before, v, after, f, seen, rfl, hbefore, hnew, hfind, hfits⟩ :=
          openMembers_eq_abandoned_iff.1 h
        exact ⟨f, .object before after, v, List.mem_of_find?_eq_some hfind, ⟨seen, hbefore, hnew⟩,
          rfl, hfits⟩
      · rcases bind_eq_abandoned h with h | ⟨_, -, h⟩
        · exact absurd h (requireAll_ne_abandoned o _)
        · cases h
    · obtain ⟨before, v, after, f, rfl, hfield, hbefore, hfits⟩ :=
        openItems_eq_abandoned_iff.1 (h : openItems l 0 l.fields items = _)
      exact ⟨f, .array before after, v, hfield, hbefore, rfl, hfits⟩
    · cases hreason.symm.trans h
  · rintro ⟨field, f | f, v, hf, hreaches, rfl, hfits⟩
    · obtain ⟨seen, hbefore, hnew⟩ := hreaches
      rw [Frame.plug, Layout.open, openMembers_eq_abandoned_iff.2
        ⟨_, v, _, field, seen, rfl, hbefore, hnew, find?_name hd hf, hfits⟩]
      rfl
    · exact openItems_eq_abandoned_iff.2 ⟨_, v, _, field, rfl, hf, hreaches, hfits⟩

/-- The values of an object fit the fields whose names they have. -/
theorem fits_of_openMembers {members : List (Option String × Json)}
    (hseen : ∀ p ∈ seen, ∃ f ∈ fields, f.name = p.1 ∧ f.fits p.2 = .ok ())
    (h : openMembers fields seen members = .ok o) :
    ∀ p ∈ o, ∃ f ∈ fields, f.name = p.1 ∧ f.fits p.2 = .ok () := by
  induction members generalizing seen with
  | nil => cases h; exact hseen
  | cons m members ih =>
    obtain ⟨_ | n, w⟩ := m
    · cases h
    · rw [openMembers] at h
      split at h
      · obtain ⟨_, -, h⟩ := bind_eq_ok h
        exact ih hseen h
      · next f hfind =>
        split at h
        · cases h
        · obtain ⟨_, hfits, h⟩ := bind_eq_ok h
          refine ih (fun p hp ↦ ?_) h
          rcases List.mem_append.1 hp with hp | hp
          · exact hseen p hp
          · rw [List.mem_singleton.1 hp]
            have hname : f.name = n := by simpa using List.find?_some hfind
            exact ⟨f, List.mem_of_find?_eq_some hfind, hname, Attempt.eq_ok_of_restate hfits⟩

/-- The values of a record that was opened fit their fields. -/
theorem Layout.fits_of_open {l : Layout} {value : Json} (h : l.open value = .ok o) :
    ∀ p ∈ o, ∃ f ∈ l.fields, f.name = p.1 ∧ f.fits p.2 = .ok () := by
  rcases l.open_cases value with ⟨members, rfl⟩ | ⟨items, rfl⟩ | ⟨reason, hreason⟩
  · rw [Layout.open] at h
    obtain ⟨o', hopen, h⟩ := bind_eq_ok h
    obtain ⟨_, -, h⟩ := bind_eq_ok h
    cases h
    exact fits_of_openMembers (fun p hp ↦ absurd hp List.not_mem_nil) hopen
  · exact fits_of_openItems h
  · cases hreason.symm.trans h

end

end ContributionRegistry.Json
