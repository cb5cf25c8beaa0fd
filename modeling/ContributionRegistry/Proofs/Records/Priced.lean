import ContributionRegistry.Proofs.Amount.Abandonment
import ContributionRegistry.Proofs.Amount.Numbers
import ContributionRegistry.Proofs.Json.Frames
import ContributionRegistry.Records.Wire

/-!
# Records with an amount

New contributions and contributions are read in the same way: the record is opened, and then its
values are decoded one by one, the amount among them. A `Priced` kind is such a layout and such a
reader, and the two kinds are those by which records are read (`pricedNewContribution`,
`pricedContribution`).

What is said of a kind is what becomes of a record when another value stands for its amount
(`Priced.ofJson_plug`), and that reading is abandoned for a torn amount that it comes to and for
nothing else (`Priced.ofJson_eq_abandoned_iff`); likewise for lists
(`Priced.toList_eq_abandoned_iff`).

A reader decodes one value after another, and both facts go through it step by step. A **heedless**
step does not look at the amount (`Heedless`), so it comes to the same whatever stands there, and a
**heedful** reader comes to it once (`Heedful`). Heedless steps may stand before and after the
reading of the amount (`Heedless.before`, `heedful_get`), which is all that a kind has to be shown
to do.
-/

namespace ContributionRegistry

open Json (Decoded Field Frame Layout Opened Place ofText)

/-! ### Values that abandon their reader -/

namespace Json

/-- Another value does not change for the one that is set. -/
theorem Opened.get_set_ne {α : Type} {o : Opened} {name other : String} {v : Json}
    (hne : other ≠ name) (decode : Json → Decoded α) :
    (o.set name v).get other decode = o.get other decode := by
  rw [Opened.get, Opened.get, Opened.lookup_set_ne hne]

/-- The value that is set is the one to be decoded. -/
theorem Opened.get_set {α : Type} {o : Opened} {name : String} {v : Json}
    (h : o.any (·.1 == name) = true) (decode : Json → Decoded α) :
    (o.set name v).get name decode = decode v := by
  rw [Opened.get, Opened.lookup_set h, Option.getD_some]

theorem textFor_ne_abandoned (expected : String) (v : Json) :
    textFor expected v ≠ .error .abandoned := by
  unfold textFor
  split
  · nofun
  · obtain ⟨reason, hreason⟩ := wrongKind_refuses (α := String) expected v
    rw [hreason]
    nofun

theorem toPeriod_ne_abandoned (v : Json) : toPeriod v ≠ .error .abandoned := by
  intro h
  rcases bind_eq_abandoned h with h | ⟨raw, -, h⟩
  · exact textFor_ne_abandoned _ v h
  · split at h <;> cases h

theorem toTimestamp_ne_abandoned (v : Json) : toTimestamp v ≠ .error .abandoned := by
  intro h
  rcases bind_eq_abandoned h with h | ⟨raw, -, h⟩
  · exact textFor_ne_abandoned _ v h
  · split at h <;> cases h

theorem mem_of_lookup {o : Opened} {name : String} {v : Json} (h : o.lookup name = some v) :
    (name, v) ∈ o := by
  induction o with
  | nil => cases h
  | cons p o ih =>
    obtain ⟨n, w⟩ := p
    rw [List.lookup_cons] at h
    split at h
    · next hn =>
      cases h
      rw [eq_of_beq hn]
      exact List.mem_cons_self
    · exact List.mem_cons_of_mem _ (ih h)

/-- Checking a value is abandoned only where decoding it is. -/
theorem eq_abandoned_of_fitting {α : Type} {decode : Json → Decoded α} {v : Json}
    (h : fitting decode v = .error .abandoned) : decode v = .error .abandoned :=
  Attempt.eq_error_of_map h

/-- **The values that abandon the reader of amounts are the torn texts.** -/
theorem toAmount_eq_abandoned_iff {v : Json} :
    toAmount v = .error .abandoned ↔ ∃ raw, v = ofText raw ∧ Amount.Torn raw := by
  constructor
  · intro h
    unfold toAmount at h
    split at h
    · next raw =>
      exact ⟨raw, rfl, Amount.parse_eq_abandoned_iff.1 (restate_eq_abandoned_iff.1 h)⟩
    · split at h
      · exact absurd (restate_eq_abandoned_iff.1 h) (Attempt.ofExcept_ne_abandoned _)
      · exact absurd (restate_eq_abandoned_iff.1 h) (Amount.parse_doubleText_ne_abandoned _ _)
      · cases h
    · obtain ⟨reason, hreason⟩ :=
        wrongKind_refuses (α := Amount) "a decimal amount as a string or number" v
      cases hreason.symm.trans h
  · rintro ⟨raw, rfl, hraw⟩
    rw [ofText, toAmount, Amount.parse_eq_abandoned_iff.2 hraw]
    rfl

/-- No text or other value abandons a field with this decoder. -/
theorem fitting_ne_abandoned {α : Type} {decode : Json → Decoded α}
    (h : ∀ v, decode v ≠ .error .abandoned) (v : Json) : fitting decode v ≠ .error .abandoned :=
  fun hv ↦ h v (eq_abandoned_of_fitting hv)

end Json

/-! ### Readers and the amount -/

section

variable {α β : Type}

/-- The reader pays no heed to the amount: with another one it comes to the same, and nothing that
it reads abandons it. -/
structure Heedless (read : Opened → Decoded α) : Prop where
  /-- Another amount makes no difference. -/
  read_set : ∀ {o v}, read (o.set "amount" v) = read o
  /-- Reading is not abandoned. -/
  ne_abandoned : ∀ {o}, read o ≠ .error .abandoned

/-- A step that decodes nothing is heedless. -/
theorem heedless_pure (a : α) : Heedless fun _ ↦ (pure a : Decoded α) where
  read_set := rfl
  ne_abandoned := nofun

/-- Reading another field than the amount, with a decoder that nothing abandons. -/
theorem heedless_get {name : String} (hname : name ≠ "amount") {decode : Json → Decoded α}
    (hdecode : ∀ v, decode v ≠ .error .abandoned) : Heedless fun o ↦ o.get name decode where
  read_set := Opened.get_set_ne hname decode
  ne_abandoned := hdecode _

/-- One heedless reading after another. -/
theorem Heedless.bind {read : Opened → Decoded α} {next : α → Opened → Decoded β}
    (h : Heedless read) (hnext : ∀ a, Heedless (next a)) :
    Heedless fun o ↦ read o >>= fun a ↦ next a o where
  read_set {o v} := by
    rw [h.read_set]
    cases read o with
    | error e => rfl
    | ok a => exact (hnext a).read_set
  ne_abandoned {o} := by
    intro habandoned
    rcases Json.bind_eq_abandoned habandoned with hread | ⟨a, -, hlater⟩
    · exact h.ne_abandoned hread
    · exact (hnext a).ne_abandoned hlater

/-- The reader comes to the amount once: with another one it gives the same record with that amount
put in, and it is the amount that abandons it if anything does. -/
structure Heedful (read : Opened → Decoded α) (put : α → Amount → α) : Prop where
  /-- Another amount makes the difference that `put` makes. -/
  read_set : ∀ {o a v}, read o = .ok a → o.any (·.1 == "amount") = true →
    read (o.set "amount" v) = (Json.toAmount v).map (put a)
  /-- Nothing but the amount abandons the reader. -/
  abandoned_of_read : ∀ {o}, read o = .error .abandoned →
    o.get "amount" Json.toAmount = .error .abandoned

/-- A reader may read other fields before it comes to the amount. -/
theorem Heedless.before {read : Opened → Decoded α} {next : α → Opened → Decoded β}
    {put : β → Amount → β} (h : Heedless read) (hnext : ∀ a, Heedful (next a) put) :
    Heedful (fun o ↦ read o >>= fun a ↦ next a o) put where
  read_set {o b v} hb hany := by
    obtain ⟨a, hread, hb⟩ := bind_eq_ok hb
    rw [h.read_set, hread]
    exact (hnext a).read_set hb hany
  abandoned_of_read {o} habandoned := by
    rcases Json.bind_eq_abandoned habandoned with hread | ⟨a, -, hlater⟩
    · exact absurd hread h.ne_abandoned
    · exact (hnext a).abandoned_of_read hlater

/-- It may read other fields after the amount, which `put` then has to leave as they are. -/
theorem heedful_get {next : Amount → Opened → Decoded α} {put : α → Amount → α}
    (hnext : ∀ amount, Heedless (next amount))
    (hput : ∀ {amount o a}, next amount o = .ok a → ∀ amount', next amount' o =
      .ok (put a amount')) :
    Heedful (fun o ↦ o.get "amount" Json.toAmount >>= fun amount ↦ next amount o) put where
  read_set {o a v} ha hany := by
    obtain ⟨amount, -, ha⟩ := bind_eq_ok ha
    rw [Opened.get_set hany]
    cases Json.toAmount v with
    | error e => rfl
    | ok amount' => exact (hnext amount').read_set.trans (hput ha amount')
  abandoned_of_read {o} habandoned := by
    rcases Json.bind_eq_abandoned habandoned with hamount | ⟨amount, -, hlater⟩
    · exact hamount
    · exact absurd hlater (hnext amount).ne_abandoned

end

/-! ### Kinds of records -/

/-- A kind of records with an amount. -/
structure Priced (α : Type) where
  /-- The fields, in order. -/
  layout : Layout
  /-- What is read from the values of the fields. -/
  read : Opened → Decoded α
  /-- Where the amount goes. -/
  put : α → Amount → α
  /-- No two fields have one name. -/
  nodup : (layout.fields.map Field.name).Nodup
  /-- One of the fields is the amount. -/
  mem : amountField "amount" ∈ layout.fields
  /-- No value abandons any other field. -/
  others : ∀ field ∈ layout.fields, field = amountField "amount" ∨
    ∀ v, field.fits v ≠ .error .abandoned
  /-- The amount is read once. -/
  heedful : Heedful read put

/-- New contributions. -/
def pricedNewContribution : Priced NewContribution where
  layout := NewContribution.layout
  read := NewContribution.read
  put c amount := { c with amount }
  nodup := by decide
  mem := by simp [NewContribution.layout]
  others := by
    have htext := Json.fitting_ne_abandoned (Json.textFor_ne_abandoned "a string")
    have hperiod := Json.fitting_ne_abandoned Json.toPeriod_ne_abandoned
    simp only [NewContribution.layout, List.forall_mem_cons]
    exact ⟨.inr hperiod, .inr htext, .inr htext, .inl trivial, List.forall_mem_nil _⟩
  heedful := by
    refine (heedless_get (by decide) Json.toPeriod_ne_abandoned).before fun period ↦ ?_
    refine (heedless_get (by decide) (Json.textFor_ne_abandoned _)).before fun rssbNumber ↦ ?_
    refine (heedless_get (by decide) (Json.textFor_ne_abandoned _)).before fun matricule ↦ ?_
    refine heedful_get (fun amount ↦ heedless_pure _) ?_
    rintro amount o c ⟨⟩ amount'
    rfl

/-- Contributions. -/
def pricedContribution : Priced Contribution where
  layout := Contribution.layout
  read := Contribution.read
  put c amount := { c with amount }
  nodup := by decide
  mem := by simp [Contribution.layout]
  others := by
    have htext := Json.fitting_ne_abandoned (Json.textFor_ne_abandoned "a string")
    have hperiod := Json.fitting_ne_abandoned Json.toPeriod_ne_abandoned
    have htime := Json.fitting_ne_abandoned Json.toTimestamp_ne_abandoned
    simp only [Contribution.layout, List.forall_mem_cons]
    exact ⟨.inr htext, .inr hperiod, .inr htext, .inr htext, .inl trivial, .inr htime, .inr htime,
      List.forall_mem_nil _⟩
  heedful := by
    have htime (name : String) (hname : name ≠ "amount") :=
      heedless_get hname Json.toTimestamp_ne_abandoned
    refine (heedless_get (by decide) (Json.textFor_ne_abandoned _)).before fun id ↦ ?_
    refine (heedless_get (by decide) Json.toPeriod_ne_abandoned).before fun period ↦ ?_
    refine (heedless_get (by decide) (Json.textFor_ne_abandoned _)).before fun rssbNumber ↦ ?_
    refine (heedless_get (by decide) (Json.textFor_ne_abandoned _)).before fun matricule ↦ ?_
    refine heedful_get (fun amount ↦ ?_) ?_
    · exact (htime "createdAt" (by decide)).bind fun createdAt ↦
        (htime "updatedAt" (by decide)).bind fun updatedAt ↦ heedless_pure _
    · intro amount o c hc amount'
      obtain ⟨createdAt, hcreatedAt, hc⟩ := bind_eq_ok hc
      obtain ⟨updatedAt, hupdatedAt, hc⟩ := bind_eq_ok hc
      cases hc
      simp only [hcreatedAt, hupdatedAt]
      rfl

namespace Priced

variable {α : Type} {kind : Priced α} {f : Frame} {a : α}

/-- Decodes a record of the kind. -/
def ofJson (kind : Priced α) : Json → Decoded α := kind.layout.decode kind.read

/-- New contributions are read as one such kind. -/
theorem ofJson_newContribution : pricedNewContribution.ofJson = NewContribution.ofJson := rfl

/-- Contributions are read as another. -/
theorem ofJson_contribution : pricedContribution.ofJson = Contribution.ofJson := rfl

/-- The frame is one around the amount. -/
def Around (kind : Priced α) (f : Frame) : Prop := f.Holds kind.layout (amountField "amount")

/-- **A record with another amount** is read as the same one with that amount, if it is one. -/
theorem ofJson_plug (hf : kind.Around f) {v₀ : Json}
    (h : kind.ofJson (f.plug "amount" v₀) = .ok a) (v : Json) :
    kind.ofJson (f.plug "amount" v) =
      ((Json.toAmount v).at (f.place "amount")).map (kind.put a) := by
  obtain ⟨o, hopen, h⟩ := bind_eq_ok h
  have hholds : f.Holds kind.layout (amountField "amount") := hf
  obtain ⟨hany, hplug⟩ := Layout.open_plug kind.nodup hholds hopen v
  have hread := kind.heedful.read_set (v := v) h hany
  have hopen' : kind.layout.open (f.plug "amount" v) =
      ((Json.fitting Json.toAmount v).at (f.place "amount")).map fun _ ↦ o.set "amount" v := hplug
  rw [ofJson, Layout.decode, hopen', Json.fitting]
  cases hamount : Json.toAmount v with
  | error e => cases e <;> rfl
  | ok amount =>
    rw [hamount] at hread
    exact hread

/-- What is read of the record up to its amount is taken, and the amount is a torn text. -/
def Torn (kind : Priced α) (value : Json) : Prop :=
  ∃ f raw, kind.Around f ∧ f.Reaches kind.layout "amount" ∧ value = f.plug "amount" (ofText raw) ∧
    Amount.Torn raw

/-- What was opened is read to the end. -/
theorem read_ne_abandoned {value : Json} {o : Opened} (hopen : kind.layout.open value = .ok o) :
    kind.read o ≠ .error .abandoned := by
  intro h
  have hget := kind.heedful.abandoned_of_read h
  rw [Opened.get] at hget
  rcases hlookup : o.lookup "amount" with _ | v
  · rw [hlookup] at hget
    obtain ⟨raw, hnull, -⟩ := Json.toAmount_eq_abandoned_iff.1 hget
    cases hnull
  · rw [hlookup, Option.getD_some] at hget
    obtain ⟨field, hfield, hname, hfits⟩ := Layout.fits_of_open hopen _ (Json.mem_of_lookup hlookup)
    have hsame := Json.find?_name kind.nodup hfield
    rw [hname] at hsame
    cases hsame.symm.trans (Json.find?_name kind.nodup kind.mem)
    have hfits : (Json.toAmount v).map (fun _ ↦ ()) = .ok () := hfits
    rw [hget] at hfits
    cases hfits

/-- **Reading a record is abandoned exactly for a torn amount** that it comes to. -/
theorem ofJson_eq_abandoned_iff {value : Json} :
    kind.ofJson value = .error .abandoned ↔ kind.Torn value := by
  constructor
  · intro h
    rcases Json.bind_eq_abandoned h with h | ⟨o, hopen, h⟩
    · obtain ⟨field, f, v, hf, hreaches, rfl, hfits⟩ :=
        (Layout.open_eq_abandoned_iff kind.nodup).1 h
      obtain rfl := (kind.others field hf.mem).resolve_right fun hnot ↦ hnot v hfits
      obtain ⟨raw, rfl, hraw⟩ :=
        Json.toAmount_eq_abandoned_iff.1 (Json.eq_abandoned_of_fitting hfits)
      exact ⟨f, raw, hf, hreaches, rfl, hraw⟩
    · exact absurd h (read_ne_abandoned hopen)
  · rintro ⟨f, raw, hf, hreaches, rfl, hraw⟩
    have hfits : (amountField "amount").fits (ofText raw) = .error .abandoned := by
      show Json.fitting Json.toAmount _ = _
      rw [Json.fitting, Json.toAmount_eq_abandoned_iff.2 ⟨raw, rfl, hraw⟩]
      rfl
    have hopen : kind.layout.open (f.plug "amount" (ofText raw)) = .error .abandoned :=
      (Layout.open_eq_abandoned_iff kind.nodup).2 ⟨_, f, _, hf, hreaches, rfl, hfits⟩
    rw [ofJson, Layout.decode, hopen]
    rfl

/-- The records in a list before one are read, and that one has a torn amount. -/
def ListTorn (kind : Priced α) (value : Json) : Prop :=
  ∃ before item after, value = .array (before ++ item :: after) ∧
    (∀ v ∈ before, ∃ a, kind.ofJson v = .ok a) ∧ kind.Torn item

/-- **A list is abandoned** at the first torn amount that it comes to. -/
theorem toList_eq_abandoned_iff {value : Json} :
    Json.toList kind.ofJson value = .error .abandoned ↔ kind.ListTorn value := by
  constructor
  · intro h
    unfold Json.toList at h
    split at h
    · next items =>
      induction items with
      | nil => cases h
      | cons item items ih =>
        rw [List.mapM_cons] at h
        -- either the first item is torn, or it is read and a later one is
        rcases Json.bind_eq_abandoned h with h | ⟨a, ha, h⟩
        · exact ⟨[], item, items, rfl, nofun, ofJson_eq_abandoned_iff.1 h⟩
        · rcases Json.bind_eq_abandoned h with h | ⟨_, -, h⟩
          · obtain ⟨before, torn, after, hitems, hbefore, htorn⟩ := ih h
            obtain rfl := Json.array.inj hitems
            exact ⟨item :: before, torn, after, rfl, List.forall_mem_cons.2 ⟨⟨a, ha⟩, hbefore⟩,
              htorn⟩
          · cases h
    · obtain ⟨reason, hreason⟩ := Json.wrongKind_refuses (α := List α) "a sequence" value
      cases hreason.symm.trans h
  · rintro ⟨before, item, after, rfl, hbefore, hitem⟩
    rw [Json.toList]
    induction before with
    | nil => rw [List.nil_append, List.mapM_cons, ofJson_eq_abandoned_iff.2 hitem]; rfl
    | cons v before ih =>
      obtain ⟨⟨a, ha⟩, hrest⟩ := List.forall_mem_cons.1 hbefore
      rw [List.cons_append, List.mapM_cons, ha, Attempt.ok_bind, ih hrest]
      rfl

end Priced

end ContributionRegistry
