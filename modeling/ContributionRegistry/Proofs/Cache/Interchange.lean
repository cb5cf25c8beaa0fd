import ContributionRegistry.Proofs.Cache.Upshots

/-!
# Lookups of contributions for different employees

In which order two lookups for different employees take place makes no difference: each gives what
it would give alone, and nobody can tell afterwards which was first (`lookup_interchange`,
`Alike.after`).

The entries that the two orders leave are not the same: they stand in another order, and a lookup
that writes drops what has expired, so some may be gone in one order that are still there in the
other. `Alike` is what remains of equality: the branches differ in the entries of their caches only,
and both caches stand for the same writings. Every call then answers alike on both, and leaves
branches that are alike.

That the orders leave alike branches is a matter of upshots. What one lookup writes is filed under
the key of its own employee, so the upshot of the other is the same before and after it, and filing
under different keys commutes.
-/

namespace ContributionRegistry.Cache

open Deployment (Branch)

/-! ### Filing -/

section

variable {last : String → Option Entry} {e₁? e₂? : Option Entry}

/-- Filing under another key changes nothing under this one. -/
theorem filed_of_ne {key : String} (h : ∀ e ∈ e₁?, e.key ≠ key) :
    filed last e₁? key = last key := by
  match e₁?, h with
  | none, _ => rfl
  | some e, h => exact Function.update_of_ne (h e rfl).symm _ _

/-- Filing under different keys commutes. -/
theorem filed_comm (h : ∀ e₁ ∈ e₁?, ∀ e₂ ∈ e₂?, e₁.key ≠ e₂.key) :
    filed (filed last e₁?) e₂? = filed (filed last e₂?) e₁? := by
  match e₁?, e₂?, h with
  | none, _, _ => rfl
  | some _, none, _ => rfl
  | some e₁, some e₂, h => exact Function.update_comm (h e₁ rfl e₂ rfl) _ _ _

end

/-- What two lookups add to the counts can be added in either order. -/
theorem leave_comm (u₁ u₂ : Upshot) (b : Branch Supply) (es : Entries) :
    u₁.leave (u₂.leave b []) es = u₂.leave (u₁.leave b []) es := by
  simp only [Upshot.leave, withResidents, Nat.add_right_comm]

/-! ### Entries with a key each -/

/-- Entries with different keys reflect themselves. -/
theorem Entries.reflects_entry? {es : Entries} (h : (es.map Entry.key).Nodup) (now : Nat) :
    es.Reflects now es.entry? where
  latest e he := by
    obtain ⟨e', he'⟩ : ∃ e', es.entry? e.key = some e' := by
      rw [← Option.isSome_iff_exists, entry?, List.find?_isSome]
      exact ⟨e, he, beq_self_eq_true e.key⟩
    have hkey : e'.key = e.key := by simpa using List.find?_some he'
    rw [he', List.inj_on_of_nodup_map h (List.mem_of_find?_eq_some he') he hkey]
  keyed key e he := by simpa using List.find?_some he
  present key e he _ := List.mem_of_find?_eq_some he
  distinct := h

/-- The cache of the branch reflects some writings or other. -/
def Orderly (b : Branch Supply) : Prop := ∃ last, (residents b).Reflects (clock b) last

section

variable {b b' : Branch Supply}

/-- Whatever happens, the branch stays in order. -/
theorem Orderly.step (h : Orderly b) (ttl : Nat) (happening : Happening) :
    Orderly (step ttl b happening) := by
  obtain ⟨last, hlast⟩ := h
  match happening with
  | .lookup key =>
    obtain ⟨es, hlookup, hes⟩ := lookup_eq ttl key hlast
    rw [Cache.step, hlookup]
    exact ⟨_, hes⟩
  | .stats => exact ⟨last, reflects_stats ttl hlast⟩
  | .served _ _ => exact ⟨last, hlast⟩
  | .outage _ => exact ⟨last, hlast⟩
  | .faults _ => exact ⟨last, hlast⟩
  | .passed span => exact ⟨last, hlast.mono (Nat.le_add_right _ _)⟩

theorem Orderly.after (h : Orderly b) (ttl : Nat) (past : List Happening) :
    Orderly (after ttl b past) :=
  History.run_keeps h (fun _ happening h ↦ h.step ttl happening) past

/-! ### Branches that are alike -/

/-- The branches differ in the entries of their caches only, and those stand for the same. -/
def Alike (b b' : Branch Supply) : Prop :=
  ∃ es last, b' = withResidents b es ∧ (residents b).Reflects (clock b) last ∧
    es.Reflects (clock b) last

/-- What stands for the same counts the same. -/
theorem Entries.Reflects.count_congr {es es' : Entries} {now : Nat} {last : String → Option Entry}
    (h : es.Reflects now last) (h' : es'.Reflects now last) :
    (es.count now (listKeyStart ++ "*")).1 = (es'.count now (listKeyStart ++ "*")).1 := by
  obtain ⟨keys, hnodup, hlength, hmem⟩ := h.count_eq
  obtain ⟨keys', hnodup', hlength', hmem'⟩ := h'.count_eq
  have hperm : keys.Perm keys' := (List.perm_ext_iff_of_nodup hnodup hnodup').2
    fun key ↦ (hmem key).trans (hmem' key).symm
  rw [hlength, hlength', hperm.length_eq]

/-- A lookup comes out alike at branches that are alike, and leaves them so. -/
theorem Alike.lookup (h : Alike b b') (ttl : Nat) (key : String) :
    (lookup ttl key b').1 = (lookup ttl key b).1 ∧
      Alike (lookup ttl key b).2 (lookup ttl key b').2 := by
  obtain ⟨es, last, rfl, hlast, hlast'⟩ := h
  obtain ⟨es₁, hlookup, hes₁⟩ := lookup_eq ttl key hlast
  have hother : (residents (withResidents b es)).Reflects (clock (withResidents b es)) last :=
    hlast'
  obtain ⟨es₂, hlookup', hes₂⟩ := lookup_eq ttl key hother
  rw [hlookup, hlookup']
  exact ⟨rfl, es₂, _, rfl, hes₁, hes₂⟩

theorem Alike.stats (h : Alike b b') (ttl : Nat) :
    (stats (Branch.lists Supply.masterData ttl) b').1 =
        (stats (Branch.lists Supply.masterData ttl) b).1 ∧
      Alike (stats (Branch.lists Supply.masterData ttl) b).2
        (stats (Branch.lists Supply.masterData ttl) b').2 := by
  obtain ⟨es, last, rfl, hlast, hlast'⟩ := h
  obtain ⟨es₁, hstats, hes₁⟩ := stats_eq ttl hlast
  have hother : (residents (withResidents b es)).Reflects (clock (withResidents b es)) last :=
    hlast'
  obtain ⟨es₂, hstats', hes₂⟩ := stats_eq ttl hother
  rw [hstats, hstats', hlast.count_congr hlast']
  exact ⟨rfl, es₂, last, rfl, hes₁, hes₂⟩

/-- **Whatever happens to both leaves them alike.** -/
theorem Alike.step (h : Alike b b') (ttl : Nat) (happening : Happening) :
    Alike (step ttl b happening) (step ttl b' happening) := by
  match happening with
  | .lookup key => exact (h.lookup ttl key).2
  | .stats => exact (h.stats ttl).2
  | .served _ _ | .outage _ | .faults _ =>
    obtain ⟨es, last, rfl, hlast, hlast'⟩ := h
    exact ⟨es, last, rfl, hlast, hlast'⟩
  | .passed span =>
    obtain ⟨es, last, rfl, hlast, hlast'⟩ := h
    exact ⟨es, last, rfl, hlast.mono (Nat.le_add_right _ _), hlast'.mono (Nat.le_add_right _ _)⟩

/-- Nobody can tell branches that are alike apart, ever. -/
theorem Alike.after (h : Alike b b') (ttl : Nat) (future : List Happening) :
    Alike (after ttl b future) (after ttl b' future) :=
  History.run_beside h (fun _ _ happening h ↦ h.step ttl happening) future

theorem Alike.counts (h : Alike b b') : b'.tally = b.tally ∧ asks b' = asks b := by
  obtain ⟨es, last, rfl, -, -⟩ := h
  exact ⟨rfl, rfl⟩

/-! ### Two lookups -/

/-- **A lookup after one for another employee** comes to what it comes to without. -/
theorem lookup_after_lookup {ttl : Nat} {k₁ k₂ : String} (hne : k₁ ≠ k₂)
    {last : String → Option Entry} (h : (residents b).Reflects (clock b) last) :
    ∃ es, lookup ttl k₂ (lookup ttl k₁ b).2 = ((upshot ttl k₂ b last).outcome,
        (upshot ttl k₂ b last).leave ((upshot ttl k₁ b last).leave b []) es) ∧
      es.Reflects (clock b)
        (filed (filed last (upshot ttl k₁ b last).entry) (upshot ttl k₂ b last).entry) := by
  obtain ⟨es, hlookup, hes⟩ := lookup_eq ttl k₁ h
  have hother : ∀ e ∈ (upshot ttl k₁ b last).entry, e.key ≠ listKey k₂ := by
    intro e he hkey
    exact hne ((String.append_right_inj listKeyStart).1 ((key_of_upshot e he).symm.trans hkey))
  have hsame : upshot ttl k₂ ((upshot ttl k₁ b last).leave b es)
      (filed last (upshot ttl k₁ b last).entry) = upshot ttl k₂ b last :=
    (upshot_congr (filed_of_ne hother)).trans (upshot_leave _ es)
  have hnext : (residents ((upshot ttl k₁ b last).leave b es)).Reflects
      (clock ((upshot ttl k₁ b last).leave b es)) (filed last (upshot ttl k₁ b last).entry) := hes
  obtain ⟨es', hlookup', hes'⟩ := lookup_eq ttl k₂ hnext
  rw [hsame] at hlookup' hes'
  rw [hlookup, hlookup']
  exact ⟨es', rfl, hes'⟩

/-- **Lookups for different employees can be interchanged**: each gives what it would give first,
and the branches left behind are alike. -/
theorem lookup_interchange {ttl : Nat} {k₁ k₂ : String} (hne : k₁ ≠ k₂) (h : Orderly b) :
    (lookup ttl k₂ (lookup ttl k₁ b).2).1 = (lookup ttl k₂ b).1 ∧
      (lookup ttl k₁ (lookup ttl k₂ b).2).1 = (lookup ttl k₁ b).1 ∧
      Alike (lookup ttl k₂ (lookup ttl k₁ b).2).2 (lookup ttl k₁ (lookup ttl k₂ b).2).2 := by
  obtain ⟨last, hlast⟩ := h
  obtain ⟨es₁, hfirst, -⟩ := lookup_eq ttl k₁ hlast
  obtain ⟨es₂, hsecond, -⟩ := lookup_eq ttl k₂ hlast
  obtain ⟨es₁₂, hboth, hes₁₂⟩ := lookup_after_lookup hne hlast
  obtain ⟨es₂₁, hboth', hes₂₁⟩ := lookup_after_lookup hne.symm hlast
  rw [hboth, hboth']
  refine ⟨by rw [hsecond], by rw [hfirst], es₂₁, _, ?_, hes₁₂, ?_⟩
  · show (upshot ttl k₁ b last).leave ((upshot ttl k₂ b last).leave b []) es₂₁ =
      (upshot ttl k₂ b last).leave ((upshot ttl k₁ b last).leave b []) es₂₁
    exact leave_comm _ _ b es₂₁
  · rw [filed_comm fun e₁ he₁ e₂ he₂ hkey ↦ ?_]
    · exact hes₂₁
    · rw [key_of_upshot e₁ he₁, key_of_upshot e₂ he₂] at hkey
      exact hne ((String.append_right_inj listKeyStart).1 hkey)

end

end ContributionRegistry.Cache
