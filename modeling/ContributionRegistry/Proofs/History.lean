import Mathlib.Data.List.Induction

/-!
# Histories

A system takes one event after another, and `step` says what each leaves behind. A history is a list
of events, and the state after it is that of the steps in a row (`History.run`). The registry, the
branch, its cache and its replica, lookups that take turns, and a registry with a branch of it are
all systems in this sense: they differ in their events and in the step, and share what is said here.

**What one step keeps, a run keeps.** There is one principle (`run_induction`), an invariant that
may speak of the past as well as of the state. The others are cases of it, from the most demanding
to the simplest:

* `run_keeps_along`: the step may use which events are still to come, so an assumption about the
  history as a whole can be brought to each moment of it;
* `run_keeps_of_forall`: every event of the history is of some kind;
* `run_keeps`: whatever happens;
* `run_grows`: a relation that goes from each state to the next goes from the first to the last;
* `run_beside`: two systems that take the same events stay side by side.

Nothing here depends on what the states and events are.
-/

namespace ContributionRegistry.History

variable {σ τ ε : Type}

/-- The state after events, one after another. -/
def run (step : σ → ε → σ) (s : σ) (events : List ε) : σ := events.foldl step s

section

variable {step : σ → ε → σ} {s : σ}

@[simp] theorem run_nil : run step s [] = s := rfl

theorem run_cons (e : ε) (later : List ε) : run step s (e :: later) = run step (step s e) later :=
  rfl

/-- A history goes on where it was interrupted. -/
theorem run_append (earlier later : List ε) :
    run step s (earlier ++ later) = run step (run step s earlier) later :=
  List.foldl_append

/-- The step that comes last is taken last. -/
theorem run_concat (past : List ε) (e : ε) :
    run step s (past ++ [e]) = step (run step s past) e :=
  run_append past [e]

/-! ### Invariants -/

/-- **What holds at the start and is kept by every step holds after every history.** It may speak of
the past. -/
theorem run_induction (step : σ → ε → σ) {s : σ} {P : List ε → σ → Prop} (start : P [] s)
    (next : ∀ past e, P past (run step s past) → P (past ++ [e]) (step (run step s past) e))
    (past : List ε) : P past (run step s past) := by
  induction past using List.reverseRecOn with
  | nil => exact start
  | append_singleton past e ih =>
    rw [run_concat]
    exact next past e ih

/-- What every step of one history keeps, this history keeps. -/
theorem run_keeps_along {P : σ → Prop} {events : List ε} (start : P s)
    (next : ∀ earlier e later, events = earlier ++ e :: later →
      P (run step s earlier) → P (step (run step s earlier) e)) : P (run step s events) := by
  have hpast (past : List ε) : past <+: events → P (run step s past) := by
    refine run_induction step (P := fun past t ↦ past <+: events → P t) (fun _ ↦ start) ?_ past
    rintro earlier e ih ⟨later, hsplit⟩
    have hsplit : events = earlier ++ e :: later := by rw [← hsplit, List.append_assoc]; rfl
    exact next earlier e later hsplit (ih ⟨e :: later, hsplit.symm⟩)
  exact hpast events List.prefix_rfl

/-- What every event of a kind keeps, a history of such events keeps. -/
theorem run_keeps_of_forall {P : σ → Prop} {Q : ε → Prop} (start : P s)
    (next : ∀ t e, Q e → P t → P (step t e)) {events : List ε} (h : ∀ e ∈ events, Q e) :
    P (run step s events) := by
  refine run_keeps_along start fun earlier e later hsplit hnow ↦ next _ e (h e ?_) hnow
  rw [hsplit]
  exact List.mem_append_right earlier List.mem_cons_self

/-- What every event keeps, a history keeps. -/
theorem run_keeps {P : σ → Prop} (start : P s) (next : ∀ t e, P t → P (step t e))
    (events : List ε) : P (run step s events) :=
  run_keeps_along start fun _ e _ _ ↦ next _ e

/-- What goes from each state to the next goes from the first to the last. -/
theorem run_grows {R : σ → σ → Prop} (refl : ∀ t, R t t)
    (trans : ∀ {t u v}, R t u → R u v → R t v) (next : ∀ t e, R t (step t e)) (events : List ε) :
    R s (run step s events) :=
  run_keeps (P := R s) (refl s) (fun t e h ↦ trans h (next t e)) events

/-- Two systems that take the same events stay side by side. -/
theorem run_beside {R : σ → τ → Prop} {step' : τ → ε → τ} {t : τ} (start : R s t)
    (next : ∀ u v e, R u v → R (step u e) (step' v e)) (events : List ε) :
    R (run step s events) (run step' t events) := by
  induction events generalizing s t with
  | nil => exact start
  | cons e events ih => exact ih (next s t e start)

end

end ContributionRegistry.History
