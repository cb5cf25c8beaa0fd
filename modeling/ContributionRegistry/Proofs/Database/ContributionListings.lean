import ContributionRegistry.Proofs.Database.ContributionTables

/-!
# The contributions that a database lists

A database gives the contributions in its table that a filter lets through, in the order of
listings, whatever order rows come in (`lists_contributions`). What is asked of the column is asked
of the contribution: a period is written as it was read, so comparing texts is comparing periods.

Nothing is assumed of what is in the table. An entry stands for a contribution or cannot be read
(`contributionOf?`); if all of those that are selected can be read, the listing is of them, and if
one cannot, there is no listing at all.
-/

namespace ContributionRegistry.Database

/-! ### Out of entries -/

/-- What is read from a cell stands in the column. -/
theorem lookup_of_readText {e : Entry} {column text : String}
    (h : readText (e.cell column) = .ok text) : e.lookup column = some (.text text) := by
  unfold Entry.cell at h
  cases hvalue : e.lookup column with
  | none =>
    rw [hvalue] at h
    cases h
  | some v =>
    rw [hvalue] at h
    cases v with
    | text s =>
      cases h
      rfl
    | _ => cases h

/-- The columns that filters look at have the texts of the contribution. -/
theorem lookup_of_read {e : Entry} {texts : ContributionTexts}
    (h : contributionTextsOfRow (contributionEntryNames.map e.cell) = .ok texts) :
    e.lookup "period" = some (.text texts.period) ∧
      e.lookup "rssb_number" = some (.text texts.rssbNumber) ∧
      e.lookup "matricule" = some (.text texts.matricule) := by
  change (readText (e.cell "id") >>= fun id ↦ readText (e.cell "period") >>= fun period ↦
    readText (e.cell "rssb_number") >>= fun rssbNumber ↦
    readText (e.cell "matricule") >>= fun matricule ↦ readText (e.cell "amount") >>= fun amount ↦
    readTimestamp (e.cell "created_at") >>= fun createdAt ↦
    readTimestamp (e.cell "updated_at") >>= fun updatedAt ↦ .ok
      { id, period, rssbNumber, matricule, amount, createdAt, updatedAt }) = .ok texts at h
  obtain ⟨id, -, h⟩ := bind_eq_ok h
  obtain ⟨period, hperiod, h⟩ := bind_eq_ok h
  obtain ⟨rssbNumber, hnumber, h⟩ := bind_eq_ok h
  obtain ⟨matricule, hmatricule, h⟩ := bind_eq_ok h
  obtain ⟨amount, -, h⟩ := bind_eq_ok h
  obtain ⟨createdAt, -, h⟩ := bind_eq_ok h
  obtain ⟨updatedAt, -, h⟩ := bind_eq_ok h
  cases h
  exact ⟨lookup_of_readText hperiod, lookup_of_readText hnumber, lookup_of_readText hmatricule⟩

/-- The texts of a contribution are those that it was read from, but for the amount. -/
theorem of_contribution {texts : ContributionTexts} {c : Contribution}
    (h : texts.contribution = .ok c) : c.period.text = texts.period ∧
      c.rssbNumber = texts.rssbNumber ∧ c.matricule = texts.matricule := by
  obtain ⟨period, hperiod, h⟩ := bind_eq_ok h
  obtain ⟨amount, -, h⟩ := bind_eq_ok h
  cases h
  refine ⟨Period.text_of_parse ?_, rfl, rfl⟩
  have hparsed := Attempt.eq_ok_of_ofExcept hperiod
  cases hparse : Period.parse texts.period with
  | ok p =>
    rw [hparse] at hparsed
    cases hparsed
    rfl
  | error x =>
    rw [hparse] at hparsed
    cases hparsed

/-! ### What the table has -/

/-- The contribution of an entry, if it can be read. -/
def contributionOf? (e : Entry) : Option Contribution :=
  (contributionOfRow (contributionEntryNames.map e.cell)).toOption

/-- The contributions in the table. An entry that cannot be read is none. -/
def kept (d : Data) : List Contribution := (d.entries "contributions").filterMap contributionOf?

/-- A filter looks at an entry as it looks at the contribution that is read from it. -/
theorem passes_of_contributionOf? {e : Entry} {c : Contribution} (h : contributionOf? e = some c)
    (filter : ContributionFilter) : passes filter e = filter.matches? c := by
  unfold contributionOf? contributionOfRow at h
  split at h
  · next texts htexts =>
    obtain ⟨hperiod, hnumber, hmatricule⟩ := lookup_of_read htexts
    have hread : texts.contribution = .ok c := by
      cases hof : texts.contribution with
      | ok c' =>
        rw [hof] at h
        cases h
        rfl
      | error x =>
        rw [hof] at h
        cases h
    obtain ⟨htext, hnumber', hmatricule'⟩ := of_contribution hread
    rw [← htext] at hperiod
    rw [← hnumber'] at hnumber
    rw [← hmatricule'] at hmatricule
    rw [← passes_entryOf]
    cases filter with
    | all => rfl
    | byRssbNumber key => exact congrArg (· == _) hnumber
    | byPeriod period => exact congrArg (· == _) hperiod
    | byMatricule key => exact congrArg (· == _) hmatricule
  · cases h

/-- Entries that can all be read are read one by one. -/
theorem filterMap_of_mapM {es : List Entry} {found : List Contribution}
    (h : (es.map fun e ↦ contributionEntryNames.map e.cell).mapM contributionOfRow = .ok found) :
    found = es.filterMap contributionOf? := by
  induction es generalizing found with
  | nil =>
    cases h
    rfl
  | cons e es ih =>
    rw [List.map_cons, List.mapM_cons] at h
    obtain ⟨c, hc, h⟩ := bind_eq_ok h
    obtain ⟨rest, hrest, h⟩ := bind_eq_ok h
    cases h
    have hread : contributionOf? e = some c := by
      rw [contributionOf?, hc]
      rfl
    rw [List.filterMap_cons_some hread, ih hrest]

/-- The entries that a filter lets through are those of the contributions that it lets through. -/
theorem filterMap_passes (es : List Entry) (filter : ContributionFilter) :
    (es.filter (passes filter)).filterMap contributionOf? =
      (es.filterMap contributionOf?).filter filter.matches? := by
  rw [List.filterMap_filter, List.filter_filterMap]
  refine List.filterMap_congr fun e _ ↦ ?_
  cases he : contributionOf? e with
  | none => cases passes filter e <;> rfl
  | some c => rw [passes_of_contributionOf? he, Option.filter_some]

section

variable {a : Arrangement} {d : Data}

/-- What is found are contributions in the table, put in order. -/
theorem listed_of_find {filter : ContributionFilter} {list : List Contribution} {d' : Data}
    (h : (engine a).stores.contributions.find filter d = (.ok list, d')) :
    ∃ found : List Contribution, list = Contribution.listing found ∧
      found.Perm ((kept d).filter filter.matches?) := by
  rw [find_eq] at h
  have hlist := congrArg Prod.fst h
  generalize hfound : ((a.arrange d.selections ((d.entries "contributions").filter
    (passes filter))).map fun e ↦ contributionEntryNames.map e.cell).mapM contributionOfRow =
      outcome at hlist
  cases outcome with
  | error x => cases hlist
  | ok found =>
    refine ⟨found, (Except.ok.inj hlist).symm, ?_⟩
    rw [filterMap_of_mapM hfound, kept, ← filterMap_passes]
    exact (a.perm ..).filterMap contributionOf?

/-- **A database lists the contributions in its table**, in whatever order rows come. -/
theorem lists_contributions (a : Arrangement) : (engine a).stores.contributions.Lists kept where
  perm filter d list d' h := by
    obtain ⟨found, rfl, hperm⟩ := listed_of_find h
    exact (List.mergeSort_perm ..).trans hperm
  pairwise filter d list d' h := by
    obtain ⟨found, rfl, -⟩ := listed_of_find h
    exact Contribution.pairwise_listing found

end

end ContributionRegistry.Database
