import ContributionRegistry.Proofs.Replica.Outcomes

/-!
# When a lookup fails

A lookup of an employee fails exactly if the replica fails it, or master data never answers
(`resolve_error_iff`). The replica can fail it at three places: at the search, at storing the
employee, and when storing conflicts and nobody is found who could be in the way (`Fails`). What
master data answers, be it a failure, is no failure of the lookup: it comes out, with nobody
(`resolve_nobody_iff`).

In a branch master data always answers, so there it is the replica alone that fails lookups
(`Unsteady.error_iff_fails`). `Fails` is said by calls that are made one after another, so it can be
read off a state without knowing how a lookup goes on.
-/

namespace ContributionRegistry.Replica

variable {σ : Type}

/-- The replica fails a lookup. -/
def Fails (desk : Desk σ) (key : String) (s : σ) : Prop := ∃ e, FailsWith desk key s e

/-- Neither the replica nor master data has the employee: master data says so, or fails, or answers
about somebody else. -/
def Nobody (desk : Desk σ) (key : String) (s : σ) : Prop :=
  ∃ s₁, desk.replica.find key s = (.ok none, s₁) ∧ ∃ told s₂,
    desk.source.employee key s₁ = (told, s₂) ∧ told ≠ .error .abandoned ∧
      ∀ r, told = .ok r → r.rssbNumber ≠ key

section

variable {desk : Desk σ} {key : String} {s : σ}

/-- **When a lookup fails.** -/
theorem resolve_error_iff :
    (∃ f, (resolve desk key s).1 = .error f) ↔ Fails desk key s ∨ Unanswered desk key s := by
  simp only [resolve_eq_error_iff, exists_or, exists_eq_left, Fails]

/-- **When a lookup comes out with nobody.** -/
theorem resolve_nobody_iff :
    (∃ r, (resolve desk key s).1 = .ok r ∧ r.employee? = none) ↔ Nobody desk key s := by
  constructor
  · rintro ⟨r, hr, hnobody⟩
    have hcourse := course_resolve desk key s
    rw [hr] at hcourse
    generalize (resolve desk key s).2 = s' at hcourse
    cases hcourse with
    | refused hfind hask => exact ⟨_, hfind, _, _, hask, fun h ↦ (nomatch h), fun _ h ↦ nomatch h⟩
    | mismatched hfind hask hne =>
      refine ⟨_, hfind, _, _, hask, fun h ↦ (nomatch h), fun r' hr' ↦ ?_⟩
      cases hr'
      exact hne
    | found hfind => cases hnobody
    | stored hfind hask hkey hcreate => cases hnobody
    | overtaken hfind hask hkey hcreate hconflict hagain => cases hnobody
  · rintro ⟨s₁, hfind, (x | _) | r, s₂, hask, hanswered, hother⟩
    · refine ⟨_, outcome_of_course (.refused hfind hask), ?_⟩
      split <;> rfl
    · exact absurd rfl hanswered
    · exact ⟨_, outcome_of_course (.mismatched hfind hask (hother r rfl)), rfl⟩

end

/-! ### A branch whose switches move -/

namespace Unsteady

variable {key : String} {u : Unsteady}

/-- Master data does answer, whatever the switches of the replica are. -/
theorem not_unanswered : ¬ Unanswered desk key u := by
  rintro ⟨s₁, s₂, -, hask⟩
  exact absurd (ask_effect hask).2.2.2.2.symm (Attempt.ofExcept_ne_abandoned _)

/-- So it is the replica that fails a lookup. -/
theorem error_iff_fails :
    (∃ f, (resolve desk key u).1 = .error f) ↔ Fails desk key u := by
  rw [resolve_error_iff, or_iff_left not_unanswered]

/-- A failure of master data is nobody found. -/
theorem nobody_of_failed {cause : RemoteError}
    (hfind : (desk.replica.find key u).1 = .ok none)
    (hanswer : u.answer key = .error cause) : Nobody desk key u := by
  have hsearched : desk.replica.find key u = (.ok none, _) := Prod.ext hfind rfl
  obtain ⟨-, -, -, -, htold⟩ := asked_effect hsearched rfl
  rw [hanswer] at htold
  exact ⟨_, hsearched, _, _, Prod.ext htold rfl, fun h ↦ (nomatch h), fun _ h ↦ nomatch h⟩

/-- Whom a lookup comes out with, the replica has. -/
theorem mirror_of_resolve {r : Resolution} {e : Employee}
    (hr : (resolve desk key u).1 = .ok r) (he : r.employee? = some e) :
    (resolve desk key u).2.mirror.find? key = some e := by
  have haccounted := accounted_of_course (course_resolve desk key u)
  rw [hr] at haccounted
  match r, he with
  | .found e, rfl =>
    obtain ⟨hfound, -, -, hmirror⟩ := haccounted
    rw [hmirror]
    exact (find_some (Prod.ext hfound rfl)).2
  | .synced e, rfl =>
    obtain ⟨-, -, -, -, hmirror, -⟩ := haccounted
    exact hmirror

end Unsteady

end ContributionRegistry.Replica
