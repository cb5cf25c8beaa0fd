import ContributionRegistry.Failure

/-!
# Actions

An action works on a state: it ends in some way, and it leaves a state behind however it ends.
Stores, caches and services are records of actions on one state, so that whatever the state is made
of, memory or the conversation with a server, the rules of the registry are written once.

An action that fails need not leave the state as it was: counts of calls go up, and what came before
the failure stays done. That nothing else changes is a fact about each action and is proved where
the action is defined.

Actions are put together in few ways:

* `next` goes on with what the first action gives, and ends where the first one fails;
* `finish` restates an outcome, for instance when a failure of a store becomes one of a service;
* `within` lets an action on a part of a state act on the whole, and leaves the rest alone.

The last section says what `next` does in the two cases that can arise.
-/

namespace ContributionRegistry

/-- What is done to a state: the outcome and the state left behind. -/
abbrev Action (σ ε α : Type) : Type := σ → Attempt ε α × σ

namespace Action

/-- The action that succeeds and changes nothing. -/
def succeed {σ ε α : Type} (a : α) : Action σ ε α := fun s ↦ (.ok a, s)

/-- The action that refuses and changes nothing. -/
def refuse {σ ε α : Type} (reason : ε) : Action σ ε α := fun s ↦ (Attempt.refuse reason, s)

/-- The action that is abandoned and changes nothing. -/
def abandon {σ ε α : Type} : Action σ ε α := fun s ↦ (.error .abandoned, s)

/-- The action that goes on with what the first one gives; if that one fails, so does the whole. -/
def next {σ ε α β : Type} (first : Action σ ε α) (rest : α → Action σ ε β) : Action σ ε β := fun s ↦
  match first s with
  | (.ok a, s) => rest a s
  | (.error e, s) => (.error e, s)

/-- The same action, with its outcome restated. -/
def finish {σ ε α ε' β : Type} (act : Action σ ε α) (f : Attempt ε α → Attempt ε' β) :
    Action σ ε' β := fun s ↦
  let (outcome, s) := act s
  (f outcome, s)

/-- An attempt that needs no state. -/
def ofAttempt {σ ε α : Type} (outcome : Attempt ε α) : Action σ ε α := fun s ↦ (outcome, s)

/-- An action on a part of a larger state. -/
def within {σ τ ε α : Type} (part : τ → σ) (put : σ → τ → τ) (act : Action σ ε α) :
    Action τ ε α := fun t ↦
  let (outcome, s) := act (part t)
  (outcome, put s t)

/-! ### Small facts -/

/-- What follows goes on in the state that the first action leaves. -/
theorem next_ok {σ ε α β : Type} {first : Action σ ε α} {rest : α → Action σ ε β} {s s' : σ} {a : α}
    (h : first s = (.ok a, s')) : first.next rest s = rest a s' := by
  simp [next, h]

/-- Nothing follows an action that fails. -/
theorem next_error {σ ε α β : Type} {first : Action σ ε α} {rest : α → Action σ ε β} {s s' : σ}
    {e : Failure ε} (h : first s = (.error e, s')) : first.next rest s = (.error e, s') := by
  simp [next, h]

/-- An action that only gives a value can be left out. -/
theorem next_succeed {σ ε α β : Type} (a : α) (rest : α → Action σ ε β) :
    (succeed a : Action σ ε α).next rest = rest a := rfl

end Action

end ContributionRegistry
