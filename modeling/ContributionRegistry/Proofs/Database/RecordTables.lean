import ContributionRegistry.Database.Stores
import ContributionRegistry.Proofs.Database.Engine
import ContributionRegistry.Proofs.Records.Listings
import ContributionRegistry.Proofs.Store.Shelves
import ContributionRegistry.Store.Memory
import Mathlib.Data.List.Find
import Mathlib.Data.List.Perm.Basic

/-!
# Records in tables of their own

Employees and employers are told apart by a key, and a database has a table for each kind with that
key as its primary one. What is asked about either kind is answered alike on a shelf and in its
table (`RecordTable.Holds.reply`): a record is written if its key is free, and then it is read back
as it was; otherwise nothing is written, and the answer says so in the first cell of its first row.

Columns are written in one order and shown in another. What ties the two together is that an entry
is the columns with their values (`RecordTable.entry`), whichever order a row of them has.

`RecordTable` has what there is to know about a kind of record and its table: the statements, what a
database makes of them, and how rows are read. Each of its fields is checked for a kind once, where
the kind is made an instance; the argument about shelves and tables then uses nothing else.
-/

namespace ContributionRegistry

open Calendar (Timestamp)

/-! ### What a store of records replies -/

namespace RecordStore

/-- What a store of records is asked. -/
inductive Call (ρ : Type) where
  | create (record : ρ)
  | find (key : String)
  | all

/-- What it replies. -/
inductive Reply (ρ : Type) where
  | created (outcome : Attempt StoreError ρ)
  | found (outcome : Attempt StoreError (Option ρ))
  | listed (outcome : Attempt StoreError (List ρ))

/-- The reply to a call, and what it leaves behind. -/
def reply {σ ρ : Type} (store : RecordStore σ ρ) : Call ρ → σ → Reply ρ × σ
  | .create record, s => (store.create record s).map .created id
  | .find key, s => (store.find key s).map .found id
  | .all, s => (store.all s).map .listed id

/-- Two replies are the same, up to the order of records with the same time. -/
inductive Reply.Agrees {ρ : Type} (time : ρ → Timestamp) : Reply ρ → Reply ρ → Prop where
  | created (outcome : Attempt StoreError ρ) : Agrees time (.created outcome) (.created outcome)
  | found (outcome : Attempt StoreError (Option ρ)) : Agrees time (.found outcome) (.found outcome)
  | listed {list list' : List ρ} (perm : list.Perm list') (times : list.map time = list'.map time) :
      Agrees time (.listed (.ok list)) (.listed (.ok list'))

end RecordStore

open RecordStore (Call Reply)

/-! ### Listings by time -/

/-- Records in the order of their times, newest first. -/
def newestFirst {ρ : Type} (time : ρ → Timestamp) (rs : List ρ) : List ρ :=
  rs.mergeSort fun a b ↦ newerFirst (time a) (time b)

theorem perm_newestFirst {ρ : Type} (time : ρ → Timestamp) (rs : List ρ) :
    (newestFirst time rs).Perm rs := List.mergeSort_perm ..

/-- In whatever order records come, their times are listed in one. -/
theorem map_time_newestFirst {ρ : Type} (time : ρ → Timestamp) {rs rs' : List ρ}
    (h : rs.Perm rs') : (newestFirst time rs).map time = (newestFirst time rs').map time := by
  have hsorted (list : List ρ) :
      ((newestFirst time list).map time).Pairwise fun s t ↦ ¬ s.precedes t = true :=
    List.pairwise_map.2 (pairwise_newestFirst time list)
  have hperm : ((newestFirst time rs).map time).Perm ((newestFirst time rs').map time) :=
    ((perm_newestFirst ..).trans (h.trans (perm_newestFirst ..).symm)).map time
  refine hperm.eq_of_pairwise ?_ (hsorted rs) (hsorted rs')
  intro s t _ _ hst hts
  rcases Timestamp.precedes_or_eq s t with h | h | h
  · exact absurd h hst
  · exact h
  · exact absurd h hts

/-! ### On a shelf -/

namespace Shelf

variable {ρ : Type} [Keyed ρ]

/-- A shelf as a store, listed newest first. -/
def store (time : ρ → Timestamp) : RecordStore (Shelf ρ) ρ where
  find key s := (.ok (s.find? key), s)
  all s := (.ok (newestFirst time s.byKey), s)
  create r s := (s.create r).map Attempt.ofExcept id

/-- Whatever it is asked, a shelf keeps the records that it has. -/
theorem prefix_reply (time : ρ → Timestamp) (call : Call ρ) (s : Shelf ρ) :
    s.records <+: ((store time).reply call s).2.records := by
  cases call with
  | create r =>
    show s.records <+: (s.create r).2.records
    rcases s.create_cases r with ⟨-, hcreate⟩ | ⟨-, s', hcreate, hrecords⟩
    · have hsame : (s.create r).2 = s := congrArg Prod.snd hcreate
      exact hsame.symm ▸ List.prefix_refl _
    · rw [hcreate, hrecords]
      exact List.prefix_append ..
  | find key => exact List.prefix_refl _
  | all => exact List.prefix_refl _

/-- The records under a key are the one that is found there, or none. -/
theorem filter_key (s : Shelf ρ) (key : String) :
    s.records.filter (fun r ↦ Keyed.key r == key) = (s.find? key).toList := by
  have hlength := s.length_filter_key_le key
  rw [Shelf.find?, ← List.head?_filter]
  rcases hfilter : s.records.filter fun r ↦ Keyed.key r == key with _ | ⟨r, _ | ⟨q, rest⟩⟩
  · rfl
  · rfl
  · rw [hfilter] at hlength
    exact absurd hlength (by simp)

end Shelf

namespace Database

/-! ### Inserting where there is nothing -/

namespace Data

/-- A conditional insertion tells whether there was nothing under the key. -/
theorem applied_insert {d : Data} {t : Table} {new : Entry} {key : String}
    (hkey : t.key? new = some key) : (d.insert t new true).1.applied =
      .ok ((d.entries t.name).find? fun e ↦ t.key? e == some key).isNone := by
  simp only [insert, hkey, if_true]
  generalize (d.entries t.name).find? (fun e ↦ t.key? e == some key) = old
  have hshown : ∀ c ∈ t.columns.map fun column ↦ (old.getD []).cell column.1, c ≠ .unreadable := by
    intro c hc
    obtain ⟨column, -, rfl⟩ := List.mem_map.1 hc
    rw [Entry.cell]
    split
    all_goals
      intro h
      cases h
  have hreadable : (Cell.value (.boolean old.isNone) ::
      t.columns.map fun column ↦ (old.getD []).cell column.1).contains .unreadable = false := by
    rw [List.contains_eq_mem, decide_eq_false_iff_not, List.mem_cons]
    rintro (h | h)
    · cases h
    · exact hshown _ h rfl
  rw [Answer.applied, hreadable]
  cases old <;> rfl

/-- A conditional insertion writes nothing over what is under the key. -/
theorem insert_of_taken {d : Data} {t : Table} {new old : Entry} {key : String}
    (hkey : t.key? new = some key)
    (hold : (d.entries t.name).find? (fun e ↦ t.key? e == some key) = some old) :
    (d.insert t new true).2 = d := by
  simp only [insert, hkey, hold]
  rfl

end Data

/-! ### In a table -/

/-- A kind of records with a table of its own: what the database is told about them, and how they
are read. -/
structure RecordTable (ρ : Type) [Keyed ρ] where
  /-- The table of the kind. -/
  table : Table
  /-- The columns in the order in which they are written. -/
  written : List String
  /-- The columns in the order in which they are shown, with their types. -/
  shown : List String
  /-- The types of the columns that are shown. -/
  types : List ColumnType
  /-- Inserts a record if its key is free. -/
  insert : ρ → Statement
  /-- Looks up the record under a key. -/
  select : String → Statement
  /-- Looks up all records. -/
  selectAll : Statement
  /-- A record from a row. -/
  ofRow : Row → Reading ρ
  /-- When a record was made. -/
  created : ρ → Timestamp
  /-- When a record was last changed. -/
  updated : ρ → Timestamp
  /-- What the database makes of an insertion. -/
  run_insert : ∀ (a : Arrangement) (r : ρ) (d : Data),
    (engine a).run (insert r) d = d.insert table (written.zip (insert r).values) true
  /-- What the database makes of a lookup by key. -/
  run_select : ∀ (a : Arrangement) (key : String) (d : Data), (engine a).run (select key) d =
    d.select a table shown fun e ↦ e.lookup table.key == some (.text key)
  /-- What the database makes of a listing. -/
  run_selectAll : ∀ (a : Arrangement) (d : Data),
    (engine a).run selectAll d = d.select a table shown fun _ ↦ true
  /-- The columns that are shown have the types that are expected. -/
  types_shown : shown.mapM (fun column ↦ table.columns.lookup column) = some types
  /-- What is written into the primary key is the key of the record. -/
  lookup_key : ∀ r, (written.zip (insert r).values).lookup table.key = some (.text (Keyed.key r))
  /-- What is shown of a record is read as the record. -/
  ofRow_shown : ∀ r, (created r).Countable → (updated r).Countable →
    ofRow (shown.map (Entry.cell (written.zip (insert r).values))) = .ok r

namespace RecordTable

variable {ρ : Type} [Keyed ρ]

/-- What is kept of a record. -/
def entry (t : RecordTable ρ) (r : ρ) : Entry := t.written.zip (t.insert r).values

/-- The store of the kind. -/
def store {σ : Type} (t : RecordTable ρ) (session : Session σ) : RecordStore σ ρ where
  find key := session.ask (t.select key) (firstOf t.types t.ofRow)
  all := session.ask t.selectAll fun answer ↦
    (allOf t.types (ofReading ∘ t.ofRow) answer).map (newestFirst t.created)
  create r := session.ask (t.insert r) (insertedIf r)

/-- Times that milliseconds can tell, and a key. -/
structure Fileable (t : RecordTable ρ) (r : ρ) : Prop where
  /-- There is a key. -/
  key : Keyed.key r ≠ ""
  /-- Milliseconds can tell when it was made. -/
  created : (t.created r).Countable
  /-- Milliseconds can tell when it was last changed. -/
  updated : (t.updated r).Countable

/-- What a table can be asked: keys are not empty, and times are told by milliseconds. -/
def Admits (t : RecordTable ρ) : Call ρ → Prop
  | .create r => t.Fileable r
  | .find key => key ≠ ""
  | .all => True

/-- The table has the records of the shelf. -/
structure Holds (t : RecordTable ρ) (s : Shelf ρ) (d : Data) : Prop where
  /-- The entries are those of the records, in the same order. -/
  entries : d.entries t.table.name = s.records.map t.entry
  /-- All records can be filed. -/
  fileable : ∀ r ∈ s.records, t.Fileable r

section

variable {t : RecordTable ρ} {s : Shelf ρ} {d : Data} {r : ρ}

theorem holds_empty (t : RecordTable ρ) : t.Holds .empty {} := by
  refine ⟨rfl, ?_⟩
  intro r hr
  exact absurd hr List.not_mem_nil

/-- The key of an entry is that of the record. -/
theorem key?_entry (h : Keyed.key r ≠ "") : t.table.key? (t.entry r) = some (Keyed.key r) := by
  have hkey : (t.entry r).lookup t.table.key = some (.text (Keyed.key r)) := t.lookup_key r
  rw [Table.key?, hkey]
  show (if (Keyed.key r).isEmpty then none else some (Keyed.key r)) = _
  rw [if_neg (by simpa using h)]

/-- Rows of records are read back, in the order in which they come. -/
theorem mapM_ofRow {rs : List ρ} (h : ∀ r ∈ rs, t.Fileable r) :
    ((rs.map t.entry).map fun e ↦ t.shown.map e.cell).mapM (ofReading ∘ t.ofRow) = .ok rs := by
  rw [List.map_map]
  refine mapM_map_eq_ok fun r hr ↦ ?_
  have hrow : t.ofRow (t.shown.map (t.entry r).cell) = .ok r :=
    t.ofRow_shown r (h r hr).created (h r hr).updated
  rw [Function.comp_apply, Function.comp_apply, hrow]
  rfl

/-- Records with a key that are selected come in some order. -/
theorem Holds.run_of_select (h : t.Holds s d) {a : Arrangement} {statement : Statement}
    {passes : Entry → Bool} {keeps : ρ → Bool}
    (hrun : (engine a).run statement d = d.select a t.table t.shown passes)
    (hpasses : ∀ r, passes (t.entry r) = keeps r) :
    ∃ found : List ρ, found.Perm (s.records.filter keeps) ∧ (∀ r ∈ found, t.Fileable r) ∧
      (engine a).run statement d = (.rows t.types ((found.map t.entry).map fun e ↦
        t.shown.map e.cell), { d with selections := d.selections + 1 }) := by
  have hfilter : (d.entries t.table.name).filter passes = (s.records.filter keeps).map t.entry := by
    rw [h.entries, List.filter_map]
    exact congrArg _ (List.filter_congr fun r _ ↦ hpasses r)
  obtain ⟨found, hfound, hperm⟩ : Relation.Comp (fun es rs ↦ es = rs.map t.entry) List.Perm
      (a.arrange d.selections ((s.records.filter keeps).map t.entry)) (s.records.filter keeps) :=
    (congrFun₂ (List.eq_map_comp_perm t.entry) _ _).mpr (a.perm ..)
  refine ⟨found, hperm, ?_, ?_⟩
  · intro r hr
    exact h.fileable r (List.mem_filter.1 (hperm.mem_iff.1 hr)).1
  · rw [hrun, Data.select, t.types_shown, hfilter, hfound]

/-- What was told is found again. -/
theorem Holds.find (h : t.Holds s d) (a : Arrangement) (key : String) :
    (t.store (engine a)).find key d =
      (.ok (s.find? key), { d with selections := d.selections + 1 }) := by
  have hpasses (r : ρ) : ((t.entry r).lookup t.table.key == some (.text key)) =
      (Keyed.key r == key) := by
    rw [entry, t.lookup_key, Bool.eq_iff_iff, beq_iff_eq, beq_iff_eq, Option.some_inj,
      Value.text.injEq]
  obtain ⟨found, hperm, hfileable, hrun⟩ := h.run_of_select (t.run_select a key d) hpasses
  rw [s.filter_key] at hperm
  show (firstOf t.types t.ofRow ((engine a).run (t.select key) d).1,
    ((engine a).run (t.select key) d).2) = _
  rw [hrun]
  refine Prod.ext ?_ rfl
  -- keys are unique, so the rows that pass are none or one, whatever order rows come in
  match hfind : s.find? key with
  | none =>
    rw [hfind] at hperm
    obtain rfl : found = [] := List.perm_nil.1 hperm
    show firstOf t.types t.ofRow (.rows t.types []) = _
    simp only [firstOf, Answer.rowsOf, if_true]
    rfl
  | some r =>
    rw [hfind] at hperm
    obtain rfl : found = [r] := List.perm_singleton.1 hperm
    obtain ⟨-, hcreated, hupdated⟩ := hfileable r (List.mem_singleton_self r)
    have hrow : t.ofRow (t.shown.map (t.entry r).cell) = .ok r := t.ofRow_shown r hcreated hupdated
    show firstOf t.types t.ofRow (.rows t.types [t.shown.map (t.entry r).cell]) = _
    simp only [firstOf, Answer.rowsOf, if_true]
    show (do return some (← ofReading (t.ofRow (t.shown.map (t.entry r).cell)))) = _
    rw [hrow]
    rfl

/-- All that were told are listed, newest first. -/
theorem Holds.all (h : t.Holds s d) (a : Arrangement) :
    ∃ found : List ρ, found.Perm s.records ∧ (t.store (engine a)).all d =
      (.ok (newestFirst t.created found), { d with selections := d.selections + 1 }) := by
  have hpasses (r : ρ) : (fun _ : Entry ↦ true) (t.entry r) = (fun _ : ρ ↦ true) r := rfl
  obtain ⟨found, hperm, hfileable, hrun⟩ := h.run_of_select (t.run_selectAll a d) hpasses
  rw [List.filter_true] at hperm
  refine ⟨found, hperm, ?_⟩
  show ((allOf t.types (ofReading ∘ t.ofRow) ((engine a).run t.selectAll d).1).map
    (newestFirst t.created), ((engine a).run t.selectAll d).2) = _
  rw [hrun]
  simp only [allOf, Answer.rowsOf, if_true]
  show ((((found.map t.entry).map fun e ↦ t.shown.map e.cell).mapM (ofReading ∘ t.ofRow)).map
    (newestFirst t.created), _) = _
  rw [mapM_ofRow hfileable]
  rfl

/-- Whether a record is under the key is whether an entry is. -/
theorem Holds.find?_entries (h : t.Holds s d) (key : String) :
    (d.entries t.table.name).find? (fun e ↦ t.table.key? e == some key) =
      (s.find? key).map t.entry := by
  rw [h.entries, List.find?_map, Shelf.find?]
  refine congrArg _ (List.find?_congr fun r hr ↦ ?_)
  rw [Function.comp_apply, key?_entry (h.fileable r hr).key, Bool.eq_iff_iff, beq_iff_eq,
    beq_iff_eq, Option.some_inj]

/-- A record is filed if its key is free, and refused if it is not. -/
theorem Holds.create (h : t.Holds s d) (a : Arrangement) (hr : t.Fileable r) :
    ((t.store (engine a)).create r d).1 = Attempt.ofExcept (s.create r).1 ∧
      t.Holds (s.create r).2 ((t.store (engine a)).create r d).2 ∧
      ∀ other, other ≠ t.table.name →
        ((t.store (engine a)).create r d).2.entries other = d.entries other := by
  have hkey : t.table.key? (t.entry r) = some (Keyed.key r) := key?_entry hr.key
  have hfind := h.find?_entries (Keyed.key r)
  have hcreate : (t.store (engine a)).create r d =
      (insertedIf r (d.insert t.table (t.entry r) true).1,
        (d.insert t.table (t.entry r) true).2) := by
    show (insertedIf r ((engine a).run (t.insert r) d).1, ((engine a).run (t.insert r) d).2) = _
    rw [t.run_insert]
    rfl
  have happlied := Data.applied_insert hkey (d := d)
  rw [hcreate]
  -- the shelf and the table decide alike, since they find alike
  rcases s.create_cases r with ⟨htaken, hshelf⟩ | ⟨hfree, s', hshelf, hrecords⟩
  · obtain ⟨r', hr'⟩ := Shelf.taken_iff.1 htaken
    rw [hr'] at hfind
    rw [hfind] at happlied
    rw [hshelf, Data.insert_of_taken hkey hfind]
    refine ⟨?_, h, fun _ _ ↦ rfl⟩
    simp only [insertedIf, happlied]
    rfl
  · rw [hfree] at hfind
    rw [hfind] at happlied
    have hnone : ∀ e ∈ d.entries t.table.name, t.table.key? e ≠ some (Keyed.key r) := by
      intro e he hsome
      exact List.find?_eq_none.1 hfind e he (by rw [hsome]; exact beq_self_eq_true _)
    rw [hshelf, Data.insert_of_free hkey hnone]
    refine ⟨?_, ⟨?_, ?_⟩, ?_⟩
    · simp only [insertedIf, happlied]
      rfl
    · rw [Data.entries_put_self, h.entries, hrecords, List.map_append]
      rfl
    · rw [hrecords]
      exact List.forall_mem_append.2 ⟨h.fileable, List.forall_mem_singleton.2 hr⟩
    · intro other hother
      exact if_neg hother

/-- **What a kind of records is asked, shelf and table answer alike**, and then they have the same
records again. Other tables are left alone. -/
theorem Holds.reply (h : t.Holds s d) (a : Arrangement) {call : Call ρ} (hcall : t.Admits call) :
    Reply.Agrees t.created ((Shelf.store t.created).reply call s).1
        ((t.store (engine a)).reply call d).1 ∧
      t.Holds ((Shelf.store t.created).reply call s).2 ((t.store (engine a)).reply call d).2 ∧
      ∀ other, other ≠ t.table.name →
        ((t.store (engine a)).reply call d).2.entries other = d.entries other := by
  cases call with
  | create r =>
    obtain ⟨houtcome, hholds, hothers⟩ := h.create a hcall
    refine ⟨?_, hholds, hothers⟩
    show Reply.Agrees _ (.created (Attempt.ofExcept (s.create r).1))
      (.created ((t.store (engine a)).create r d).1)
    rw [houtcome]
    exact .created _
  | find key =>
    have hfind := h.find a key
    show Reply.Agrees _ (.found (.ok (s.find? key))) (.found ((t.store (engine a)).find key d).1) ∧
      t.Holds s ((t.store (engine a)).find key d).2 ∧ _
    simp only [RecordStore.reply, hfind]
    exact ⟨.found _, ⟨h.entries, h.fileable⟩, fun _ _ ↦ rfl⟩
  | all =>
    obtain ⟨found, hperm, hall⟩ := h.all a
    show Reply.Agrees _ (.listed (.ok (newestFirst t.created s.byKey)))
      (.listed ((t.store (engine a)).all d).1) ∧ t.Holds s ((t.store (engine a)).all d).2 ∧ _
    simp only [RecordStore.reply, hall]
    have hsame : s.byKey.Perm found := (List.mergeSort_perm ..).trans hperm.symm
    refine ⟨.listed ?_ (map_time_newestFirst _ hsame), ⟨h.entries, h.fileable⟩, fun _ _ ↦ rfl⟩
    exact (perm_newestFirst ..).trans (hsame.trans (perm_newestFirst ..).symm)

/-- What is accepted is the record that was told, and it is found as long as the shelf has the
records that it has then. -/
theorem Holds.kept (h : t.Holds s d) {a : Arrangement} (hr : t.Fileable r) {r' : ρ}
    (hok : ((t.store (engine a)).create r d).1 = .ok r') {s' : Shelf ρ} {d' : Data}
    (hlater : (s.create r).2.records <+: s'.records) (h' : t.Holds s' d') :
    r' = r ∧ ((t.store (engine a)).find (Keyed.key r) d').1 = .ok (some r) := by
  rw [(h.create a hr).1] at hok
  rcases s.create_cases r with ⟨-, hshelf⟩ | ⟨hfree, s₁, hshelf, hrecords⟩
  · rw [hshelf] at hok
    cases hok
  · rw [hshelf] at hok hlater
    obtain rfl : r = r' := Except.ok.inj hok
    have hfound : s₁.find? (Keyed.key r) = some r := by
      rw [Shelf.find?_of_append hrecords, hfree, if_pos rfl, Option.none_or]
    rw [h'.find a, Shelf.find?_of_prefix hlater hfound]
    exact ⟨rfl, rfl⟩

/-- What happens to another table does not matter. -/
theorem Holds.of_others (h : t.Holds s d) {d' : Data} {name : String} (hname : t.table.name ≠ name)
    (hd : ∀ other, other ≠ name → d'.entries other = d.entries other) : t.Holds s d' :=
  ⟨(hd _ hname).trans h.entries, h.fileable⟩

end

end RecordTable

end Database

end ContributionRegistry
