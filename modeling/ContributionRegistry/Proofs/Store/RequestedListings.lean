import ContributionRegistry.Proofs.Database.ContributionTables
import ContributionRegistry.Proofs.Period.Texts
import Mathlib.Data.List.Nodup

/-!
# Listings as they are asked for

A request for contributions may give an employee, a period and an employer, and the first that it
gives decides. Whatever was stored before, the answer has the stored contributions that are of that
employee, period or employer, each of them once, in an order that leaves nothing open: by period,
then by time, then as they were stored (`ContributionStore.requested_listing`).

The order is that of a stable sort (`Contribution.pairwise_standsBefore`): what may stand either way
keeps the order it had. Two lists in one strict order with the same members are the same, so the
listing of some is the listing of all without the others (`Contribution.listing_filter`).
-/

namespace ContributionRegistry

/-! ### The order of a listing, ties included -/

namespace Contribution

variable {stored : List Contribution} {a b : Contribution}

/-- One contribution stands before another in a listing of what was stored in this order. -/
def StandsBefore (stored : List Contribution) (a b : Contribution) : Prop :=
  b.period.precedes a.period = true ∨
    a.period = b.period ∧ (b.createdAt.precedes a.createdAt = true ∨
      a.createdAt = b.createdAt ∧ [a, b].Sublist stored)

/-- Of two members of a list one comes first. -/
theorem pair_sublist_or {list : List Contribution} (ha : a ∈ list) (hb : b ∈ list) (hne : a ≠ b) :
    [a, b].Sublist list ∨ [b, a].Sublist list := by
  obtain ⟨before, rest, rfl⟩ := List.append_of_mem ha
  rcases List.mem_append.1 hb with hb | hb
  · exact .inr ((List.singleton_sublist.2 hb).append (List.singleton_sublist.2 List.mem_cons_self))
  · have hrest : b ∈ rest := (List.mem_cons.1 hb).resolve_left hne.symm
    exact .inl (((List.singleton_sublist.2 hrest).cons_cons a).trans (List.sublist_append_right ..))

/-- And not the other one too. -/
theorem not_pair_sublist {list : List Contribution} (hnodup : list.Nodup)
    (h : [a, b].Sublist list) : ¬[b, a].Sublist list := by
  have hplaces : list.Pairwise fun c d ↦ list.idxOf c < list.idxOf d := by
    refine List.pairwise_iff_getElem.2 fun i j hi hj hij ↦ ?_
    rwa [hnodup.idxOf_getElem i hi, hnodup.idxOf_getElem j hj]
  intro hback
  have hlt := List.pairwise_iff_forall_sublist.1 hplaces h
  have hgt := List.pairwise_iff_forall_sublist.1 hplaces hback
  exact Nat.lt_asymm hlt hgt

theorem StandsBefore.asymm (hnodup : stored.Nodup) (h : StandsBefore stored a b) :
    ¬StandsBefore stored b a := by
  rintro (hperiod' | ⟨hperiod', htime'⟩) <;> rcases h with hperiod | ⟨hperiod, htime⟩
  · exact Period.precedes_asymm hperiod hperiod'
  · exact Period.precedes_asymm hperiod' (hperiod ▸ hperiod')
  · exact Period.precedes_asymm hperiod (hperiod' ▸ hperiod)
  · rcases htime with htime | ⟨htime, horder⟩ <;> rcases htime' with htime' | ⟨htime', horder'⟩
    · exact Calendar.Timestamp.precedes_asymm htime htime'
    · exact Calendar.Timestamp.precedes_asymm htime (htime' ▸ htime)
    · exact Calendar.Timestamp.precedes_asymm htime' (htime ▸ htime')
    · exact not_pair_sublist hnodup horder horder'

/-- **A listing is in order**, and contributions with the same place stand as they were stored. -/
theorem pairwise_standsBefore (hnodup : stored.Nodup) :
    (listing stored).Pairwise (StandsBefore stored) := by
  have hperm : (listing stored).Perm stored := List.mergeSort_perm ..
  have hlisted : (listing stored).Nodup := hperm.nodup_iff.2 hnodup
  refine List.pairwise_of_forall_sublist fun {a b} hab ↦ ?_
  have hbefore : a.listedBefore b = true :=
    List.pairwise_iff_forall_sublist.1 (pairwise_listing stored) hab
  by_cases hback : b.listedBefore a = true
  -- the two have the same place, and sorting has not exchanged them
  · obtain ⟨hperiod, htime⟩ := Prod.mk.inj (place_eq hbefore hback)
    have hne : a ≠ b := List.pairwise_iff_forall_sublist.1 hlisted hab
    have ha : a ∈ stored := hperm.mem_iff.1 (hab.subset List.mem_cons_self)
    have hb : b ∈ stored := hperm.mem_iff.1 (hab.subset (List.mem_cons_of_mem a List.mem_cons_self))
    refine .inr ⟨hperiod, .inr ⟨htime, (pair_sublist_or ha hb hne).resolve_right fun hba ↦ ?_⟩⟩
    have hsorted : [b, a].Sublist (listing stored) :=
      List.pair_sublist_mergeSort (fun _ _ _ ↦ listedBefore_trans) listedBefore_total hback hba
    exact not_pair_sublist hlisted hab hsorted
  · rw [listedBefore_iff] at hbefore hback
    rcases Period.precedes_or_eq a.period b.period with hperiod | hperiod | hperiod
    · exact absurd (.inl hperiod) hback
    · refine .inr ⟨hperiod, .inl ?_⟩
      by_contra htime
      exact hback (.inr ⟨fun h ↦ Period.precedes_asymm h (hperiod ▸ h), htime⟩)
    · exact .inl hperiod

/-- **The listing of some contributions is the listing of all of them without the others.** -/
theorem listing_filter (hnodup : stored.Nodup) (keep : Contribution → Bool) :
    listing (stored.filter keep) = (listing stored).filter keep := by
  have hsome : (listing (stored.filter keep)).Pairwise (StandsBefore stored) := by
    refine (pairwise_standsBefore (hnodup.filter keep)).imp fun {a b} h ↦ ?_
    exact h.imp_right fun ⟨hperiod, htime⟩ ↦ ⟨hperiod,
      htime.imp_right fun ⟨hsame, horder⟩ ↦ ⟨hsame, horder.trans List.filter_sublist⟩⟩
  have hall : ((listing stored).filter keep).Pairwise (StandsBefore stored) :=
    (pairwise_standsBefore hnodup).filter keep
  have hperm : (listing (stored.filter keep)).Perm ((listing stored).filter keep) :=
    (List.mergeSort_perm ..).trans ((List.mergeSort_perm ..).filter keep).symm
  exact hperm.eq_of_pairwise (fun a b _ _ hab hba ↦ absurd hba (hab.asymm hnodup)) hsome hall

end Contribution

/-! ### What a request selects -/

namespace ContributionFilter

/-- What contributions can be asked for by. -/
inductive Criterion where
  | rssbNumber
  | period
  | matricule
  deriving DecidableEq

/-- What a contribution has there, as a text. -/
def Criterion.textOf : Criterion → Contribution → String
  | .rssbNumber, c => c.rssbNumber
  | .period, c => c.period.text
  | .matricule, c => c.matricule

/-- What a request gives for each criterion, those that decide before others first. -/
def given (rssbNumber period matricule : Option String) : List (Criterion × Option String) :=
  [(.rssbNumber, rssbNumber), (.period, period), (.matricule, matricule)]

/-- The first criterion for which a request gives a text that is not empty, and that text. -/
def selected? (rssbNumber period matricule : Option String) : Option (Criterion × String) :=
  (given rssbNumber period matricule).findSome? fun (criterion, text) ↦
    (text.filter fun s ↦ s ≠ "").map fun s ↦ (criterion, s)

/-- Whether a contribution is selected. Where nothing is, all are. -/
def isSelected (selection : Option (Criterion × String)) (c : Contribution) : Bool :=
  match selection with
  | none => true
  | some (criterion, text) => criterion.textOf c = text

/-- The filters of selections. There is none for a text that is not one of a period. -/
inductive Of : Option (Criterion × String) → ContributionFilter → Prop
  | all : Of none .all
  | rssbNumber (key : String) : Of (some (.rssbNumber, key)) (.byRssbNumber key)
  | period {raw : String} (p : Period) (h : p.text = raw) : Of (some (.period, raw)) (.byPeriod p)
  | matricule (key : String) : Of (some (.matricule, key)) (.byMatricule key)

variable {rssbNumber period matricule : Option String} {filter : ContributionFilter}

/-- An empty parameter is none. -/
theorem named_eq_filter (text : Option String) : named text = text.filter fun s ↦ s ≠ "" := by
  rcases text with _ | s
  · rfl
  by_cases hempty : s = ""
  · subst hempty
    rfl
  · have hnamed : named (some s) = some s := by simp [named, hempty]
    rw [hnamed, Option.filter_some, if_pos (decide_eq_true hempty)]

/-- The first of the three texts that names something is selected. -/
theorem selected?_eq : selected? rssbNumber period matricule =
    match named rssbNumber, named period, named matricule with
    | some key, _, _ => some (.rssbNumber, key)
    | none, some raw, _ => some (.period, raw)
    | none, none, some key => some (.matricule, key)
    | none, none, none => none := by
  simp only [selected?, given, ← named_eq_filter, List.findSome?_cons, List.findSome?_nil]
  cases named rssbNumber <;> cases named period <;> cases named matricule <;> rfl

/-- What a request names has a filter, unless it names a period that is not written like one. -/
theorem ofParams_cases (rssbNumber period matricule : Option String) :
    (∃ filter, ofParams rssbNumber period matricule = .ok filter ∧
      Of (selected? rssbNumber period matricule) filter) ∨
    ∃ raw, ofParams rssbNumber period matricule = .error ⟨raw⟩ ∧
      selected? rssbNumber period matricule = some (.period, raw) ∧ ¬Period.Written raw := by
  rw [selected?_eq, ofParams]
  cases named rssbNumber with
  | some key => exact .inl ⟨_, rfl, .rssbNumber key⟩
  | none =>
    cases named period with
    | some raw =>
      by_cases hwritten : Period.Written raw
      · obtain ⟨p, hp⟩ := hwritten.exists_text
        have hread : (Period.parse raw).map byPeriod = .ok (.byPeriod p) := by
          rw [← hp, Period.parse_text]
          rfl
        exact .inl ⟨.byPeriod p, hread, .period p hp⟩
      · have hrefused : (Period.parse raw).map byPeriod = .error ⟨raw⟩ := by
          rw [Period.parse_of_not_written hwritten]
          rfl
        exact .inr ⟨raw, hrefused, rfl, hwritten⟩
    | none =>
      cases named matricule with
      | some key => exact .inl ⟨_, rfl, .matricule key⟩
      | none => exact .inl ⟨_, rfl, .all⟩

/-- A selection has at most one filter. -/
theorem Of.unique {selection : Option (Criterion × String)} {filter' : ContributionFilter}
    (h : Of selection filter) (h' : Of selection filter') : filter = filter' := by
  cases h with
  | all => cases h' with | all => rfl
  | rssbNumber key => cases h' with | rssbNumber key => rfl
  | matricule key => cases h' with | matricule key => rfl
  | period p hp => cases h' with | period q hq => rw [Period.eq_of_text_eq (hp.trans hq.symm)]

theorem Of.written {raw : String} (h : Of (some (.period, raw)) filter) : Period.Written raw := by
  cases h with
  | period p hp => exact hp ▸ p.written_text

/-- **The filter is the one that the parameters select.** -/
theorem ofParams_eq_ok_iff : ofParams rssbNumber period matricule = .ok filter ↔
    Of (selected? rssbNumber period matricule) filter := by
  rcases ofParams_cases rssbNumber period matricule with
    ⟨filter', hok, hof⟩ | ⟨raw, herror, hraw, h⟩
  · rw [hok, Except.ok.injEq]
    exact ⟨fun heq ↦ heq ▸ hof, hof.unique⟩
  · rw [herror, hraw]
    exact iff_of_false nofun fun hof ↦ h hof.written

/-- **The parameters are refused** for a period that is none, if it is the one that decides. -/
theorem ofParams_eq_error_iff {reason : InvalidPeriod} :
    ofParams rssbNumber period matricule = .error reason ↔ ∃ raw,
      selected? rssbNumber period matricule = some (.period, raw) ∧ ¬Period.Written raw ∧
        reason = ⟨raw⟩ := by
  rcases ofParams_cases rssbNumber period matricule with
    ⟨filter', hok, hof⟩ | ⟨raw, herror, hraw, h⟩
  · rw [hok]
    refine iff_of_false nofun ?_
    rintro ⟨raw, hraw, h, -⟩
    exact h (hraw ▸ hof).written
  · rw [herror, hraw]
    refine ⟨fun heq ↦ ⟨raw, rfl, h, (Except.error.inj heq).symm⟩, ?_⟩
    rintro ⟨raw', heq, -, rfl⟩
    cases heq
    rfl

/-- A filter lets through what is selected. -/
theorem Of.matches? {selection : Option (Criterion × String)} (h : Of selection filter) :
    filter.matches? = isSelected selection := by
  funext c
  cases h with
  | all => rfl
  | rssbNumber key => exact beq_eq_decide ..
  | matricule key => exact beq_eq_decide ..
  | period p hp =>
    rw [Bool.eq_iff_iff, ContributionFilter.matches?, isSelected, beq_iff_eq, decide_eq_true_iff,
      ← hp]
    exact ⟨congrArg Period.text, Period.eq_of_text_eq⟩

end ContributionFilter

/-! ### What has been stored -/

namespace ContributionStore

/-- The contribution that is stored when this is replied. -/
def Reply.stored? : Reply → Option Contribution
  | .created (.ok c) => some c
  | _ => none

/-- The contributions that calls have stored, in the order of the calls. -/
def stored {σ : Type} (store : ContributionStore σ) (calls : List Call) (s : σ) :
    List Contribution :=
  (store.replies calls s).filterMap Reply.stored?

variable {m : MemoryStore}

/-- Creating puts a contribution behind the others, unless its identifier is taken. -/
theorem create_memory (m : MemoryStore) (c : Contribution) :
    (c.id ∈ m.contributions.records.map Contribution.id ∧
      MemoryStore.stores.contributions.create c m = (.refuse (Shelf.conflict c), m)) ∨
    c.id ∉ m.contributions.records.map Contribution.id ∧ ∃ m',
      MemoryStore.stores.contributions.create c m = (.ok c, m') ∧
        m'.contributions.records = m.contributions.records ++ [c] := by
  have htaken : m.contributions.taken c.id = true ↔
      c.id ∈ m.contributions.records.map Contribution.id := by
    simp only [Shelf.taken, List.any_eq_true, List.mem_map, beq_iff_eq, Keyed.key]
  rw [← htaken]
  rcases m.contributions.create_cases c with ⟨htaken, hcreate⟩ | ⟨hfree, shelf, hcreate, hrecords⟩
  · simp only [MemoryStore.stores, hcreate]
    exact .inl ⟨htaken, rfl⟩
  · simp only [MemoryStore.stores, hcreate]
    exact .inr ⟨Bool.eq_false_iff.1 (Shelf.not_taken_iff.2 hfree), _, rfl, hrecords⟩

/-- **What is in memory after some calls** is what was there, then what they have stored. -/
theorem records_after (calls : List Call) (m : MemoryStore) :
    (MemoryStore.stores.contributions.after calls m).contributions.records =
      m.contributions.records ++ MemoryStore.stores.contributions.stored calls m := by
  induction calls generalizing m with
  | nil => exact (List.append_nil _).symm
  | cons call calls ih =>
    cases call with
    | find filter => exact ih m
    | create c =>
      rw [after_create, stored, replies_create, ih]
      rcases create_memory m c with ⟨-, hrefused⟩ | ⟨-, m', hcreated, hrecords⟩
      · rw [hrefused]
        rfl
      · rw [hcreated, hrecords, List.append_assoc]
        rfl

/-- The identifiers of what is in memory after some calls are those that were there and those that
were to be stored: what is refused has the identifier of another one. -/
theorem mem_ids_after {calls : List Call} {id : String} :
    id ∈ (MemoryStore.stores.contributions.after calls m).contributions.records.map
        Contribution.id ↔
      id ∈ m.contributions.records.map Contribution.id ∨
        id ∈ (created calls).map Contribution.id := by
  induction calls generalizing m with
  | nil => simp [after, created]
  | cons call calls ih =>
    cases call with
    | find filter => exact ih
    | create c =>
      rw [after_create, created_create, ih]
      rcases create_memory m c with ⟨htaken, hrefused⟩ | ⟨-, m', hcreated, hrecords⟩
      · rw [hrefused, List.map_append, List.mem_append, ← or_assoc]
        refine or_congr_left (or_iff_left_of_imp fun hid ↦ ?_).symm
        exact List.eq_of_mem_singleton hid ▸ htaken
      · rw [hcreated, hrecords, List.map_append, List.map_append, List.mem_append, List.mem_append,
          or_assoc]

/-- No contribution stands twice on a shelf. -/
theorem nodup_records (m : MemoryStore) : m.contributions.records.Nodup :=
  m.contributions.distinct.imp fun hkey heq ↦ hkey (congrArg Keyed.key heq)

/-- **What a request lists.** After any calls on an empty memory, in which a contribution is refused
just if its identifier came before, and for anything a request may give: the first text that is not
empty decides, in the order employee, period, employer; there is no filter just if that is a period
and not written like one; and with the filter each stored contribution that is selected is found
once, and no other, by period, then by time, then as they were stored. That is the listing of all
without those that are not selected. -/
theorem requested_listing (calls : List Call) (rssbNumber period matricule : Option String) :
    let memory := MemoryStore.stores.contributions
    let stored := memory.stored calls .empty
    let now := memory.after calls .empty
    let selection := ContributionFilter.selected? rssbNumber period matricule
    (∀ c, (memory.create c now).1 =
      if c.id ∈ (created calls).map Contribution.id then .refuse (Shelf.conflict c) else .ok c) ∧
    (∀ reason, ContributionFilter.ofParams rssbNumber period matricule = .error reason ↔
      ∃ raw, selection = some (.period, raw) ∧ ¬Period.Written raw ∧ reason = ⟨raw⟩) ∧
    (∀ filter, ContributionFilter.ofParams rssbNumber period matricule = .ok filter ↔
      ContributionFilter.Of selection filter) ∧
    ∀ filter, ContributionFilter.ofParams rssbNumber period matricule = .ok filter →
      ∃ list all, memory.find filter now = (.ok list, now) ∧
        memory.find .all now = (.ok all, now) ∧
        list.Nodup ∧
        (∀ c, c ∈ list ↔ c ∈ stored ∧ ContributionFilter.isSelected selection c = true) ∧
        list.Pairwise (Contribution.StandsBefore stored) ∧
        list = all.filter (ContributionFilter.isSelected selection) := by
  intro memory stored now selection
  have hrecords : now.contributions.records = stored := records_after calls .empty
  have hnodup : stored.Nodup := hrecords ▸ nodup_records now
  refine ⟨fun c ↦ ?_, fun _ ↦ ContributionFilter.ofParams_eq_error_iff,
    fun _ ↦ ContributionFilter.ofParams_eq_ok_iff, fun filter hfilter ↦ ?_⟩
  · have hids : c.id ∈ now.contributions.records.map Contribution.id ↔
        c.id ∈ (created calls).map Contribution.id :=
      mem_ids_after.trans (or_iff_right List.not_mem_nil)
    rcases create_memory now c with ⟨htaken, hrefused⟩ | ⟨hfree, m, hcreated, -⟩
    · rw [if_pos (hids.1 htaken), hrefused]
    · rw [if_neg (mt hids.2 hfree), hcreated]
  -- both listings are of what memory holds, so what is left is about sorting
  · have hmatches := (ContributionFilter.ofParams_eq_ok_iff.1 hfilter).matches?
    have hlist : memory.find filter now = (.ok (Contribution.listing
        (stored.filter (ContributionFilter.isSelected selection))), now) := by
      rw [← hrecords, ← hmatches]
      rfl
    have hall : memory.find .all now = (.ok (Contribution.listing stored), now) := by
      rw [← hrecords, ← List.filter_true now.contributions.records]
      rfl
    have heq := Contribution.listing_filter hnodup (ContributionFilter.isSelected selection)
    have hperm : (Contribution.listing stored).Perm stored := List.mergeSort_perm ..
    refine ⟨_, _, hlist, hall, ?_, fun c ↦ ?_, ?_, heq⟩
    · exact (List.mergeSort_perm ..).nodup_iff.2 (hnodup.filter _)
    · rw [heq, List.mem_filter, hperm.mem_iff]
    · rw [heq]
      exact (Contribution.pairwise_standsBefore hnodup).filter _

end ContributionStore

end ContributionRegistry
