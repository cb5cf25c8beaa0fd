/-!
# Ways to end without a result

An operation that reads foreign text can refuse it with a reason, or it can be abandoned half-way,
in which case its caller is abandoned too: nobody gets to turn the event into an answer. The two are
kept apart, because a caller handles the first and only passes on the second.

`Attempt ε α` is what such an operation gives: a value, a refusal with a reason of `ε`, or the fact
that it was abandoned. Attempts are composed like any other results with errors. A caller with
reasons of its own restates those of the callee (`Attempt.restate`), and an operation that cannot be
abandoned is an attempt that never is (`Attempt.ofExcept`).

The lemmas below take composed attempts apart again: what is known of the parts when the whole has
come out well or failed. They are stated for one step each; `mapM_map_eq_ok` carries one over to
lists.
-/

namespace ContributionRegistry

/-- How an operation ended without a result. -/
inductive Failure (ε : Type) where
  /-- The operation refuses, and says why. -/
  | refused (reason : ε)
  /-- The operation was abandoned. -/
  | abandoned
  deriving DecidableEq, Repr

/-- The same ending, with the reason restated. -/
def Failure.map {ε ε' : Type} (f : ε → ε') : Failure ε → Failure ε'
  | .refused reason => .refused (f reason)
  | .abandoned => .abandoned

/-- What an operation gives that may refuse or be abandoned. -/
abbrev Attempt (ε α : Type) : Type := Except (Failure ε) α

/-- The attempt that refuses with `reason`. -/
def Attempt.refuse {ε α : Type} (reason : ε) : Attempt ε α := .error (.refused reason)

/-- An operation that cannot be abandoned, as an attempt. -/
def Attempt.ofExcept {ε α : Type} : Except ε α → Attempt ε α
  | .ok a => .ok a
  | .error e => .error (.refused e)

/-- The same attempt, with the reason of a refusal restated. -/
def Attempt.restate {ε ε' α : Type} (f : ε → ε') : Attempt ε α → Attempt ε' α
  | .ok a => .ok a
  | .error e => .error (e.map f)

/-- A success is no refusal to restate. -/
@[simp] theorem Attempt.restate_ok {ε ε' α : Type} (f : ε → ε') (a : α) :
    Attempt.restate f (.ok a : Attempt ε α) = .ok a := rfl

/-- A failure stays of its kind when its reason is restated. -/
@[simp] theorem Attempt.restate_error {ε ε' α : Type} (f : ε → ε') (e : Failure ε) :
    Attempt.restate f (.error e : Attempt ε α) = .error (e.map f) := rfl

/-- What follows a success goes on with its value. -/
@[simp] theorem Attempt.ok_bind {ε α β : Type} (a : α) (f : α → Attempt ε β) :
    (Except.ok a >>= f : Attempt ε β) = f a := rfl

/-- Nothing follows a failure. -/
@[simp] theorem Attempt.error_bind {ε α β : Type} (e : Failure ε) (f : α → Attempt ε β) :
    (Except.error e >>= f : Attempt ε β) = .error e := rfl

/-- Restating a refusal makes no successes. -/
theorem Attempt.eq_ok_of_restate {ε ε' α : Type} {f : ε → ε'} {x : Attempt ε α} {a : α}
    (h : x.restate f = .ok a) : x = .ok a := by
  cases x with
  | ok b => cases h; rfl
  | error e => cases h

/-- A success that cannot be abandoned was one before. -/
theorem Attempt.eq_ok_of_ofExcept {ε α : Type} {x : Except ε α} {a : α}
    (h : Attempt.ofExcept x = .ok a) : x = .ok a := by
  cases x with
  | ok b => cases h; rfl
  | error e => cases h

/-- A refusal that cannot be abandoned was an error before. -/
theorem Attempt.eq_error_of_ofExcept {ε α : Type} {x : Except ε α} {e : ε}
    (h : Attempt.ofExcept x = .error (.refused e)) : x = .error e := by
  cases x with
  | ok b => cases h
  | error e => cases h; rfl

/-- An operation that cannot be abandoned never is. -/
theorem Attempt.ofExcept_ne_abandoned {ε α : Type} (x : Except ε α) :
    Attempt.ofExcept x ≠ .error .abandoned := by
  cases x <;> nofun

/-- A value that is there was given by the attempt. -/
theorem Attempt.eq_ok_of_map_some {ε α : Type} {x : Attempt ε α} {a : α}
    (h : x.map some = .ok (some a)) : x = .ok a := by
  cases x with
  | ok b => cases h; rfl
  | error e => cases h

/-- What becomes of a value has no part in a failure. -/
theorem Attempt.eq_error_of_map {ε α β : Type} {f : α → β} {x : Attempt ε α} {e : Failure ε}
    (h : x.map f = .error e) : x = .error e := by
  cases x with
  | ok b => cases h
  | error e => cases h; rfl

/-- Two steps one after the other come out well only if both do. -/
theorem bind_eq_ok {ε α β : Type} {x : Except ε α} {f : α → Except ε β} {b : β}
    (h : x >>= f = .ok b) : ∃ a, x = .ok a ∧ f a = .ok b := by
  cases x with
  | ok a => exact ⟨a, rfl, h⟩
  | error e => cases h

/-- Items that are read one by one are read together. -/
theorem mapM_map_eq_ok {ε α β : Type} {read : β → Except ε α} {write : α → β} {items : List α}
    (h : ∀ a ∈ items, read (write a) = .ok a) : (items.map write).mapM read = .ok items := by
  induction items with
  | nil => rfl
  | cons a items ih =>
    obtain ⟨ha, hitems⟩ := List.forall_mem_cons.1 h
    rw [List.map_cons, List.mapM_cons, ih hitems, ha]
    rfl

end ContributionRegistry
