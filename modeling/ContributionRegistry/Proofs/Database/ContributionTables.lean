import ContributionRegistry.Database.Stores
import ContributionRegistry.Proofs.Database.Engine
import ContributionRegistry.Proofs.History
import ContributionRegistry.Proofs.Records.ContributionTexts
import ContributionRegistry.Proofs.Records.Listings
import ContributionRegistry.Proofs.Store.Shelves
import ContributionRegistry.Store.Memory
import Mathlib.Data.List.Perm.Basic

/-!
# Contributions in memory and in a database

The two stores of contributions answer alike as long as no identifier comes twice and nothing is
asked for whose amount cannot be read back, and no longer (`replies_agree_iff`). A database that
carries the statements out writes a contribution over one with the same identifier, where memory
refuses it; and it keeps an amount as a text that is too long to be read if it has more than sixteen
digits before the point, where memory keeps the amount. `database_replaces` has both.

As long as they agree, the entries in the table are those of the contributions on the shelf
(`Beside`). A call of which both make the same leaves them so (`Beside.create_free`,
`Beside.find_database`).

Answers agree (`Reply.Agrees`) if they are the same, listings up to the order of contributions that
are equal in period and time: on a shelf these stand in the order of insertion, and the rows of a
table come in any order. `Tame` says of a sequence of calls what the two backends need to agree, in
terms of the calls alone.
-/

namespace ContributionRegistry

open Calendar (Timestamp)

/-! ### What a store of contributions replies -/

namespace ContributionStore

/-- What a store of contributions is asked. -/
inductive Call where
  | create (c : Contribution)
  | find (filter : ContributionFilter)

/-- What it replies. -/
inductive Reply where
  | created (outcome : Attempt StoreError Contribution)
  | found (outcome : Attempt StoreError (List Contribution))
  deriving DecidableEq

variable {σ : Type}

/-- The reply to a call, and what it leaves behind. -/
def reply (store : ContributionStore σ) : Call → σ → Reply × σ
  | .create c, s =>
    let (outcome, s) := store.create c s
    (.created outcome, s)
  | .find filter, s =>
    let (outcome, s) := store.find filter s
    (.found outcome, s)

/-- The contribution that a call is to create. -/
def Call.new? : Call → Option Contribution
  | .create c => some c
  | .find _ => none

/-- The contributions that calls are to create. -/
def created (calls : List Call) : List Contribution := calls.filterMap Call.new?

theorem created_create (c : Contribution) (calls : List Call) :
    created (.create c :: calls) = [c] ++ created calls := rfl

/-- What calls leave behind, one after another. -/
def after (store : ContributionStore σ) (calls : List Call) (s : σ) : σ :=
  History.run (fun s call ↦ (store.reply call s).2) s calls

/-- The replies to calls, one after another. -/
def replies (store : ContributionStore σ) : List Call → σ → List Reply
  | [], _ => []
  | call :: calls, s =>
    let (reply, s) := store.reply call s
    reply :: replies store calls s

/-- What follows a creation goes on in the state that it leaves. -/
theorem after_create (store : ContributionStore σ) (c : Contribution) (calls : List Call) (s : σ) :
    store.after (.create c :: calls) s = store.after calls (store.create c s).2 := rfl

/-- What follows a lookup goes on in the state that it leaves. -/
theorem after_find (store : ContributionStore σ) (filter : ContributionFilter)
    (calls : List Call) (s : σ) :
    store.after (.find filter :: calls) s = store.after calls (store.find filter s).2 := rfl

/-- A creation is replied to, and then what follows it. -/
theorem replies_create (store : ContributionStore σ) (c : Contribution) (calls : List Call)
    (s : σ) :
    store.replies (.create c :: calls) s =
      .created (store.create c s).1 :: store.replies calls (store.create c s).2 := rfl

/-- A lookup is replied to, and then what follows it. -/
theorem replies_find (store : ContributionStore σ) (filter : ContributionFilter)
    (calls : List Call) (s : σ) : store.replies (.find filter :: calls) s =
      .found (store.find filter s).1 :: store.replies calls (store.find filter s).2 := rfl

/-- Two replies are the same, up to the order of contributions that have the same place in a
listing. -/
inductive Reply.Agrees : Reply → Reply → Prop where
  | created (outcome : Attempt StoreError Contribution) :
      Agrees (.created outcome) (.created outcome)
  | found {list list' : List Contribution} (perm : list.Perm list')
      (places : list.map Contribution.place = list'.map Contribution.place) :
      Agrees (.found (.ok list)) (.found (.ok list'))

/-- No identifier comes twice, and nothing is looked up whose amount is too large to be read. -/
def Tame (past : List Contribution) : List Call → Prop
  | [] => True
  | .create c :: calls => c.id ∉ past.map Contribution.id ∧ Tame (past ++ [c]) calls
  | .find filter :: calls =>
    (∀ c ∈ past, filter.matches? c = true → c.amountReadable = true) ∧ Tame past calls

instance Tame.decidable (past : List Contribution) :
    (calls : List Call) → Decidable (Tame past calls)
  | [] => inferInstanceAs (Decidable True)
  | .create c :: calls =>
    have := Tame.decidable (past ++ [c]) calls
    inferInstanceAs (Decidable (_ ∧ _))
  | .find _ :: calls =>
    have := Tame.decidable past calls
    inferInstanceAs (Decidable (_ ∧ _))

end ContributionStore

namespace Database

/-! ### A contribution in its table -/

/-- The columns in which a contribution is written and read. -/
def contributionEntryNames : List String :=
  ["id", "period", "rssb_number", "matricule", "amount", "created_at", "updated_at"]

/-- What is kept of a contribution. -/
def entryOf (c : Contribution) : Entry := contributionEntryNames.zip (insertContribution c).values

/-- The column that a filter looks at. -/
def columnOf? : ContributionFilter → Option String
  | .all => none
  | .byRssbNumber _ => some "rssb_number"
  | .byPeriod _ => some "period"
  | .byMatricule _ => some "matricule"

/-- Which entries a filter lets through. -/
def passes : ContributionFilter → Entry → Bool
  | .all, _ => true
  | .byRssbNumber key, e => e.lookup "rssb_number" == some (.text key)
  | .byPeriod period, e => e.lookup "period" == some (.text period.text)
  | .byMatricule key, e => e.lookup "matricule" == some (.text key)

section

variable {a : Arrangement} {c : Contribution} {filter : ContributionFilter} {d : Data}

/-- The key of an entry is the identifier of the contribution. -/
theorem key?_entryOf (h : c.id ≠ "") : Table.contributions.key? (entryOf c) = some c.id := by
  have hid : (entryOf c).lookup Table.contributions.key = some (.text c.id) := rfl
  rw [Table.key?, hid]
  dsimp only
  rw [if_neg (by simpa using h)]

/-- What the database does when a contribution is inserted. -/
theorem run_insertContribution (c : Contribution) (d : Data) :
    (engine a).run (insertContribution c) d = d.insert .contributions (entryOf c) false := by
  have hread : Command.read? (insertContribution c).cql =
      some (.insert "contributions" contributionEntryNames false) := by
    show Command.read? (
      "INSERT INTO contributions ( id, period, rssb_number, matricule, amount, created_at, " ++
        "updated_at ) VALUES (?, ?, ?, ?, ?, ?, ?)") = _
    decide +kernel
  rw [Data.run_of_read hread]
  rfl

/-- What the database does when contributions are selected. -/
theorem run_selectBy (filter : ContributionFilter) (d : Data) :
    (engine a).run (selectBy filter) d =
      d.select a .contributions contributionEntryNames (passes filter) := by
  have hread : Command.read? (selectBy filter).cql = some (.select contributionEntryNames
      "contributions" (columnOf? filter)) := by
    cases filter <;> simp only [selectBy, columnOf?] <;> decide +kernel
  rw [Data.run_of_read hread]
  cases filter <;> rfl

/-- What a lookup comes to: rows in some order, read and put into that of listings. -/
theorem find_eq (filter : ContributionFilter) (d : Data) :
    (engine a).stores.contributions.find filter d =
      ((((a.arrange d.selections ((d.entries "contributions").filter (passes filter))).map
        fun e ↦ contributionEntryNames.map e.cell).mapM contributionOfRow).map
          Contribution.listing, { d with selections := d.selections + 1 }) := by
  simp only [Session.stores, Session.ask, run_selectBy]
  rfl

/-- An entry is selected just if its contribution is let through. -/
theorem passes_entryOf (filter : ContributionFilter) (c : Contribution) :
    passes filter (entryOf c) = filter.matches? c := by
  have htext (s t : String) : (some (Value.text s) == some (.text t)) = (s == t) := by
    rw [Bool.eq_iff_iff, beq_iff_eq, beq_iff_eq, Option.some_inj, Value.text.injEq]
  cases filter with
  | all => rfl
  | byRssbNumber key => exact htext ..
  | byPeriod period =>
    refine (htext ..).trans ?_
    rw [Bool.eq_iff_iff, ContributionFilter.matches?, beq_iff_eq, beq_iff_eq]
    exact ⟨fun h ↦ Period.eq_of_text_eq h, fun h ↦ congrArg Period.text h⟩
  | byMatricule key => exact htext ..

/-- A contribution is shown as the row that is written for it. -/
theorem map_cell_entryOf (c : Contribution) :
    contributionEntryNames.map (entryOf c).cell = (insertContribution c).row := rfl

end

/-! ### Contributions out of their rows -/

/-- Times that milliseconds can tell. -/
structure Timely (c : Contribution) : Prop where
  /-- Milliseconds can tell when it was made. -/
  created : c.createdAt.Countable
  /-- Milliseconds can tell when it was last changed. -/
  updated : c.updatedAt.Countable

/-- A contribution is read back unless its amount is too large. -/
theorem contributionOfRow_eq {c : Contribution} (h : Timely c) :
    contributionOfRow (insertContribution c).row =
      if c.amountReadable then .ok c
      else .refuse (.serialization (.amount ⟨c.amount.text⟩)) := by
  rw [contributionOfRow, contributionTextsOfRow_insertContribution h.created h.updated]
  dsimp only
  rw [contribution_of, Contribution.amountReadable]
  simp only [decide_eq_true_eq]
  split <;> rfl

/-- Rows are read unless one has an amount that is too long, and the first of those decides. -/
theorem mapM_contributionOfRow {cs : List Contribution} (h : ∀ c ∈ cs, Timely c) :
    (cs.map fun c ↦ (insertContribution c).row).mapM contributionOfRow =
      match Contribution.firstUnreadable? cs with
      | none => .ok cs
      | some c => .refuse (.serialization (.amount ⟨c.amount.text⟩)) :=
  Contribution.mapM_written fun c hc ↦ contributionOfRow_eq (h c hc)

/-! ### Memory and database side by side -/

open ContributionStore (Call Reply Tame after_create after_find created created_create
  replies_create replies_find)

/-- Memory and database have the same contributions. -/
structure Beside (cs : List Contribution) (m : MemoryStore) (d : Data) : Prop where
  /-- The contributions are on the shelf. -/
  shelf : m.contributions.records = cs
  /-- Their entries are in the table, in the same order. -/
  entries : d.entries "contributions" = cs.map entryOf
  /-- They have identifiers. -/
  named : ∀ c ∈ cs, c.id ≠ ""
  /-- Milliseconds can tell their times. -/
  timely : ∀ c ∈ cs, Timely c

section

variable {a : Arrangement} {cs : List Contribution} {m : MemoryStore} {d : Data}

theorem beside_empty : Beside [] .empty {} :=
  ⟨rfl, rfl, fun _ hc ↦ absurd hc List.not_mem_nil, fun _ hc ↦ absurd hc List.not_mem_nil⟩

/-- The database accepts whatever has an identifier. -/
theorem create_database {c : Contribution} (hid : c.id ≠ "") (d : Data) :
    (engine a).stores.contributions.create c d =
      (.ok c, (d.insert .contributions (entryOf c) false).2) := by
  have hanswer := Data.insert_answer (d := d) (key?_entryOf hid)
  simp only [Session.stores, Session.ask, run_insertContribution, hanswer, inserted]

/-- Memory refuses an identifier that is taken. -/
theorem Beside.create_taken (h : Beside cs m d) {c : Contribution}
    (htaken : c.id ∈ cs.map Contribution.id) : MemoryStore.stores.contributions.create c m =
      (.refuse (Shelf.conflict c), m) := by
  obtain ⟨c', hc', hid⟩ := List.mem_map.1 htaken
  have hfound : m.contributions.find? c'.id = some c' := Shelf.find?_of_mem (h.shelf ▸ hc')
  rw [hid] at hfound
  rcases m.contributions.create_cases c with ⟨-, hcreate⟩ | ⟨hnone, -⟩
  · simp only [MemoryStore.stores, hcreate]
    rfl
  · cases hnone.symm.trans hfound

/-- Both take a contribution with a new identifier. -/
theorem Beside.create_free (h : Beside cs m d) {c : Contribution} (hid : c.id ≠ "")
    (htimely : Timely c) (hfree : c.id ∉ cs.map Contribution.id) :
    (MemoryStore.stores.contributions.create c m).1 = .ok c ∧
      Beside (cs ++ [c]) (MemoryStore.stores.contributions.create c m).2
        ((engine a).stores.contributions.create c d).2 := by
  have hnone : ∀ e ∈ d.entries "contributions", Table.contributions.key? e ≠ some c.id := by
    rw [h.entries]
    intro e he hkey
    obtain ⟨c', hc', rfl⟩ := List.mem_map.1 he
    rw [key?_entryOf (h.named c' hc'), Option.some_inj] at hkey
    exact hfree (List.mem_map.2 ⟨c', hc', hkey⟩)
  rcases m.contributions.create_cases c with ⟨htaken, -⟩ | ⟨-, shelf, hcreate, hrecords⟩
  · obtain ⟨c', hc'⟩ := Shelf.taken_iff.1 htaken
    obtain ⟨hmem, hid'⟩ := Shelf.find?_eq_some hc'
    exact absurd (List.mem_map.2 ⟨c', h.shelf ▸ hmem, hid'⟩) hfree
  · simp only [MemoryStore.stores, hcreate, create_database hid,
      Data.insert_of_free (key?_entryOf hid) hnone]
    refine ⟨rfl, hrecords.trans (by rw [h.shelf]), ?_, ?_, ?_⟩
    · rw [List.map_append, ← h.entries]
      exact Data.entries_put_self ..
    · exact List.forall_mem_append.2 ⟨h.named, List.forall_mem_singleton.2 hid⟩
    · exact List.forall_mem_append.2 ⟨h.timely, List.forall_mem_singleton.2 htimely⟩

/-- What is found in memory. -/
theorem Beside.find_memory (h : Beside cs m d) (filter : ContributionFilter) :
    MemoryStore.stores.contributions.find filter m =
      (.ok (Contribution.listing (cs.filter filter.matches?)), m) := by
  rw [← h.shelf]
  rfl

/-- What is found in the database: the same in another order, or an amount that cannot be read. -/
theorem Beside.find_database (h : Beside cs m d) (a : Arrangement) (filter : ContributionFilter) :
    ∃ found : List Contribution, found.Perm (cs.filter filter.matches?) ∧
      ((engine a).stores.contributions.find filter d).1 =
        (match Contribution.firstUnreadable? found with
        | none => .ok (Contribution.listing found)
        | some c => .refuse (.serialization (.amount ⟨c.amount.text⟩))) ∧
      Beside cs m ((engine a).stores.contributions.find filter d).2 := by
  have hpasses : (d.entries "contributions").filter (passes filter) =
      (cs.filter filter.matches?).map entryOf := by
    rw [h.entries, List.filter_map]
    exact congrArg _ (List.filter_congr fun c _ ↦ passes_entryOf filter c)
  -- whatever order the entries come in, they are those of the contributions in that order
  obtain ⟨found, hfound, hperm⟩ : Relation.Comp (fun es cs ↦ es = cs.map entryOf) List.Perm
      (a.arrange d.selections ((cs.filter filter.matches?).map entryOf))
      (cs.filter filter.matches?) :=
    (congrFun₂ (List.eq_map_comp_perm entryOf) _ _).mpr (a.perm ..)
  have htimely : ∀ c ∈ found, Timely c := fun c hc ↦
    h.timely c (List.mem_filter.1 (hperm.mem_iff.1 hc)).1
  have hrows : (fun e : Entry ↦ contributionEntryNames.map e.cell) ∘ entryOf =
      fun c ↦ (insertContribution c).row := funext map_cell_entryOf
  refine ⟨found, hperm, ?_, ?_⟩
  · rw [find_eq, hpasses, hfound, List.map_map, hrows, mapM_contributionOfRow htimely]
    cases Contribution.firstUnreadable? found <;> rfl
  · rw [find_eq]
    exact ⟨h.shelf, h.entries, h.named, h.timely⟩

/-- **As long as calls are tame, and no longer, both reply alike.** -/
theorem Beside.agrees (h : Beside cs m d) {calls : List Call}
    (hcalls : ∀ c ∈ created calls, c.id ≠ "" ∧ Timely c) :
    List.Forall₂ Reply.Agrees (MemoryStore.stores.contributions.replies calls m)
      ((engine a).stores.contributions.replies calls d) ↔ Tame cs calls := by
  induction calls generalizing cs m d with
  | nil => exact ⟨fun _ ↦ trivial, fun _ ↦ .nil⟩
  | cons call calls ih =>
    cases call with
    | create c =>
      obtain ⟨⟨hid, htimely⟩, hcalls⟩ := List.forall_mem_cons.1 hcalls
      rw [replies_create, replies_create, List.forall₂_cons, Tame]
      -- memory refuses an identifier in use, the database never refuses one
      by_cases hfree : c.id ∈ cs.map Contribution.id
      · refine ⟨fun hagrees ↦ ?_, fun htame ↦ absurd hfree htame.1⟩
        have hconflict := hagrees.1
        rw [h.create_taken hfree, create_database hid] at hconflict
        nomatch hconflict
      · obtain ⟨hok, hnext⟩ := h.create_free (a := a) hid htimely hfree
        rw [ih hnext hcalls, hok, create_database hid]
        exact ⟨fun hagrees ↦ ⟨hfree, hagrees.2⟩, fun htame ↦ ⟨.created _, htame.2⟩⟩
    | find filter =>
      obtain ⟨found, hperm, hfound, hnext⟩ := h.find_database a filter
      rw [replies_find, replies_find, List.forall₂_cons, Tame, h.find_memory filter, hfound]
      dsimp only
      rw [ih hnext hcalls]
      refine and_congr_left fun _ ↦ ?_
      -- a listing of the database fails for any amount in it that cannot be read, wherever it
      -- stands
      have hreadable : Contribution.firstUnreadable? found = none ↔
          ∀ c ∈ cs, filter.matches? c = true → c.amountReadable = true := by
        rw [Contribution.firstUnreadable?_eq_none_iff]
        simp only [hperm.mem_iff, List.mem_filter, and_imp]
      rw [← hreadable]
      cases Contribution.firstUnreadable? found with
      | none =>
        refine ⟨fun _ ↦ rfl, fun _ ↦ .found ?_ (Contribution.map_place_listing_of_perm hperm.symm)⟩
        exact (List.mergeSort_perm ..).trans (hperm.symm.trans (List.mergeSort_perm ..).symm)
      | some c => exact ⟨nofun, nofun⟩

/-- What tame calls leave behind. -/
theorem Beside.after (h : Beside cs m d) {calls : List Call}
    (hcalls : ∀ c ∈ created calls, c.id ≠ "" ∧ Timely c) (htame : Tame cs calls) :
    Beside (cs ++ created calls) (MemoryStore.stores.contributions.after calls m)
      ((engine a).stores.contributions.after calls d) := by
  induction calls generalizing cs m d with
  | nil => rwa [created, List.filterMap_nil, List.append_nil]
  | cons call calls ih =>
    cases call with
    | create c =>
      obtain ⟨⟨hid, htimely⟩, hcalls⟩ := List.forall_mem_cons.1 hcalls
      obtain ⟨hfree, htame⟩ := htame
      obtain ⟨-, hnext⟩ := h.create_free (a := a) hid htimely hfree
      rw [after_create, after_create, created_create, ← List.append_assoc]
      exact ih hnext hcalls htame
    | find filter =>
      obtain ⟨-, -, -, hnext⟩ := h.find_database a filter
      rw [after_find, after_find, h.find_memory filter]
      exact ih hnext hcalls htame.2

/-- **Memory and a database reply alike just as long as calls are tame**: no identifier comes twice,
and nothing is looked up whose amount is too large to be read. As long as they are, every
contribution that was created is found. -/
theorem replies_agree_iff (a : Arrangement) {calls : List Call}
    (hcalls : ∀ c ∈ created calls, c.id ≠ "" ∧ Timely c) :
    (List.Forall₂ Reply.Agrees (MemoryStore.stores.contributions.replies calls .empty)
      ((engine a).stores.contributions.replies calls {}) ↔ Tame [] calls) ∧
    (Tame [] calls → ∀ filter : ContributionFilter,
      (∀ c ∈ created calls, filter.matches? c = true → c.amountReadable = true) →
      ∃ list d, (engine a).stores.contributions.find filter
          ((engine a).stores.contributions.after calls {}) = (.ok list, d) ∧
        list.Perm ((created calls).filter filter.matches?)) := by
  refine ⟨beside_empty.agrees hcalls, fun htame filter hreadable ↦ ?_⟩
  obtain ⟨found, hperm, hfound, -⟩ := (beside_empty.after hcalls htame).find_database a filter
  have hnone : Contribution.firstUnreadable? found = none :=
    Contribution.firstUnreadable?_eq_none_iff.2 fun c hc ↦ by
      obtain ⟨hmem, hpasses⟩ := List.mem_filter.1 (hperm.mem_iff.1 hc)
      exact hreadable c hmem hpasses
  rw [hnone] at hfound
  exact ⟨_, _, Prod.ext hfound rfl, (List.mergeSort_perm ..).trans hperm⟩

end

/-- A contribution of the start of 1970. -/
def paid (id : String) (amount : Amount) : Contribution where
  id := id
  period := (Period.ofYearMonth? 1970 1).get rfl
  rssbNumber := "7A"
  matricule := "3B"
  amount := amount
  createdAt := .startOf .epoch
  updatedAt := .startOf .epoch

/-- The contributions of the examples have such times. -/
theorem timely_paid (id : String) (amount : Amount) : Timely (paid id amount) :=
  ⟨Timestamp.countable_startOf .epoch, Timestamp.countable_startOf .epoch⟩

/-- Rows in the order in which they were written, the last one first. -/
def latestFirst : Arrangement := ⟨fun _ entries ↦ entries.reverse, fun _ _ ↦ List.reverse_perm _⟩

/-- One franc. -/
def oneFranc : Amount := ⟨100, by decide, by decide⟩

/-- Two contributions with the same place in a listing, looked up by employee. -/
theorem replies_agree_iff_same_place :
    let calls : List Call := [.create (paid "a" oneFranc), .create (paid "b" oneFranc),
      .find (.byRssbNumber "7A")]
    List.Forall₂ Reply.Agrees (MemoryStore.stores.contributions.replies calls .empty)
      ((engine latestFirst).stores.contributions.replies calls {}) := by
  intro calls
  have hcalls : ∀ c ∈ created calls, c.id ≠ "" ∧ Timely c :=
    List.forall_mem_cons.2 ⟨⟨by decide, timely_paid ..⟩,
      List.forall_mem_singleton.2 ⟨by decide, timely_paid ..⟩⟩
  exact (replies_agree_iff latestFirst hcalls).1.2 (by decide)

/-- An amount with seventeen digits before the point. -/
def tooLong : Amount := ⟨1000000000000000000, by decide, by decide⟩

/-- **A contribution is replaced by one with its identifier**, which memory refuses, and one whose
amount is too long cannot be looked up. -/
theorem database_replaces :
    let memory := MemoryStore.stores.contributions
    let database := (engine latestFirst).stores.contributions
    let twice : List Call :=
      [.create (paid "a" oneFranc), .create (paid "a" .largest), .find .all]
    let long : List Call := [.create (paid "b" tooLong), .find .all]
    (∀ c ∈ created twice ++ created long, c.id ≠ "" ∧ Timely c) ∧
    (memory.replies twice .empty = [.created (.ok (paid "a" oneFranc)),
        .created (.refuse (.conflict "contribution" "a")), .found (.ok [paid "a" oneFranc])] ∧
      database.replies twice {} = [.created (.ok (paid "a" oneFranc)),
        .created (.ok (paid "a" .largest)), .found (.ok [paid "a" .largest])] ∧
      ¬ List.Forall₂ Reply.Agrees (memory.replies twice .empty) (database.replies twice {})) ∧
    (memory.replies long .empty =
        [.created (.ok (paid "b" tooLong)), .found (.ok [paid "b" tooLong])] ∧
      database.replies long {} = [.created (.ok (paid "b" tooLong)),
        .found (.refuse (.serialization (.amount ⟨"10000000000000000.00"⟩)))] ∧
      ¬ List.Forall₂ Reply.Agrees (memory.replies long .empty) (database.replies long {})) := by
  intro memory database twice long
  have hcalls : ∀ c ∈ created twice ++ created long, c.id ≠ "" ∧ Timely c := by
    rintro c (_ | ⟨_, _ | ⟨_, _ | ⟨_, ⟨⟩⟩⟩⟩) <;> exact ⟨by decide, timely_paid ..⟩
  have htwice : ¬ Tame [] twice := by decide
  have hlong : ¬ Tame [] long := by decide
  -- the statements are read already in what creating and finding does
  have hreplacing : database.replies twice {} = [.created (.ok (paid "a" oneFranc)),
      .created (.ok (paid "a" .largest)), .found (.ok [paid "a" .largest])] := by
    rw [replies_create, replies_create, replies_find, create_database (by decide),
      create_database (by decide), find_eq]
    decide +kernel
  have hunreadable : database.replies long {} = [.created (.ok (paid "b" tooLong)),
      .found (.refuse (.serialization (.amount ⟨"10000000000000000.00"⟩)))] := by
    rw [replies_create, replies_find, create_database (by decide), find_eq]
    decide +kernel
  refine ⟨hcalls, ⟨by decide +kernel, hreplacing, ?_⟩, ⟨by decide +kernel, hunreadable, ?_⟩⟩
  · rwa [beside_empty.agrees fun c hc ↦ hcalls c (List.mem_append_left _ hc)]
  · rwa [beside_empty.agrees fun c hc ↦ hcalls c (List.mem_append_right _ hc)]

end Database

end ContributionRegistry
