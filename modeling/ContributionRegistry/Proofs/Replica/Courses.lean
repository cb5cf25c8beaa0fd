import ContributionRegistry.Replica.Resolution

/-!
# The courses a lookup can take

A lookup that nobody disturbs makes one to four calls, and the answers to them decide which and how
it comes out. `Course` lists the ways through: one constructor for each, with the calls made and
their answers. That there are no others is `course_resolve`; what holds of every lookup is shown by
going through the list.

Nothing is said here about what the calls do. The replica and master data are those of any desk. So
a course is all there is to a lookup (`resolve_of_course`), and what the calls keep, the lookup
keeps (`resolve_keeps`).

**A failure is always the failure of a call.** Of the courses that end without an outcome, one is
cut short by master data, which never answers (`Unanswered`). In all others it is a call on the
replica that has failed, and the lookup fails with what that call failed with (`FailsWith`). So a
lookup never fails of its own accord: `resolve_eq_error_iff` reads every failure back as a call.
-/

namespace ContributionRegistry.Replica

variable {σ : Type}

/-- The ways through a lookup from a state, with the outcome and the state left behind. -/
inductive Course (desk : Desk σ) (key : String) (s : σ) :
    Attempt StoreError Resolution → σ → Prop where
  /-- The replica cannot be searched. -/
  | unsearched {e : Failure StoreError} {s₁ : σ}
      (find : desk.replica.find key s = (.error e, s₁)) : Course desk key s (.error e) s₁
  /-- The replica has the employee. -/
  | found {e : Employee} {s₁ : σ} (find : desk.replica.find key s = (.ok (some e), s₁)) :
      Course desk key s (.ok (.found e)) s₁
  /-- Master data refuses. -/
  | refused {x : RemoteError} {s₁ s₂ : σ} (find : desk.replica.find key s = (.ok none, s₁))
      (ask : desk.source.employee key s₁ = (.error (.refused x), s₂)) :
      Course desk key s (.ok (if x.isNotFound then .notFound else .syncFailed x)) s₂
  /-- Master data never answers. -/
  | unanswered {s₁ s₂ : σ} (find : desk.replica.find key s = (.ok none, s₁))
      (ask : desk.source.employee key s₁ = (.error .abandoned, s₂)) :
      Course desk key s (.error .abandoned) s₂
  /-- Master data answers about somebody else. -/
  | mismatched {r : RemoteEmployee} {s₁ s₂ : σ} (find : desk.replica.find key s = (.ok none, s₁))
      (ask : desk.source.employee key s₁ = (.ok r, s₂)) (key_ne : r.rssbNumber ≠ key) :
      Course desk key s (.ok (.syncFailed (.keyMismatch key r.rssbNumber))) s₂
  /-- The employee is stored. -/
  | stored {r : RemoteEmployee} {e : Employee} {s₁ s₂ s₃ : σ}
      (find : desk.replica.find key s = (.ok none, s₁))
      (ask : desk.source.employee key s₁ = (.ok r, s₂)) (key_eq : r.rssbNumber = key)
      (create : desk.replica.create (r.adopt (desk.now s₂)) s₂ = (.ok e, s₃)) :
      Course desk key s (.ok (.synced e)) s₃
  /-- The employee cannot be stored, for another reason than a conflict. -/
  | unstored {r : RemoteEmployee} {e : Failure StoreError} {s₁ s₂ s₃ : σ}
      (find : desk.replica.find key s = (.ok none, s₁))
      (ask : desk.source.employee key s₁ = (.ok r, s₂)) (key_eq : r.rssbNumber = key)
      (create : desk.replica.create (r.adopt (desk.now s₂)) s₂ = (.error e, s₃))
      (reason : ∀ x, e = .refused x → x.isConflict = false) :
      Course desk key s (.error e) s₃
  /-- Somebody else has stored an employee, who is found now. -/
  | overtaken {r : RemoteEmployee} {x : StoreError} {e : Employee} {s₁ s₂ s₃ s₄ : σ}
      (find : desk.replica.find key s = (.ok none, s₁))
      (ask : desk.source.employee key s₁ = (.ok r, s₂)) (key_eq : r.rssbNumber = key)
      (create : desk.replica.create (r.adopt (desk.now s₂)) s₂ = (.error (.refused x), s₃))
      (conflict : x.isConflict = true)
      (again : desk.replica.find key s₃ = (.ok (some e), s₄)) :
      Course desk key s (.ok (.synced e)) s₄
  /-- Storing conflicts, but nobody is found. -/
  | vanished {r : RemoteEmployee} {x : StoreError} {s₁ s₂ s₃ s₄ : σ}
      (find : desk.replica.find key s = (.ok none, s₁))
      (ask : desk.source.employee key s₁ = (.ok r, s₂)) (key_eq : r.rssbNumber = key)
      (create : desk.replica.create (r.adopt (desk.now s₂)) s₂ = (.error (.refused x), s₃))
      (conflict : x.isConflict = true) (again : desk.replica.find key s₃ = (.ok none, s₄)) :
      Course desk key s (.error (.refused x)) s₄
  /-- Storing conflicts, and the replica cannot be searched again. -/
  | unreread {r : RemoteEmployee} {x : StoreError} {e : Failure StoreError} {s₁ s₂ s₃ s₄ : σ}
      (find : desk.replica.find key s = (.ok none, s₁))
      (ask : desk.source.employee key s₁ = (.ok r, s₂)) (key_eq : r.rssbNumber = key)
      (create : desk.replica.create (r.adopt (desk.now s₂)) s₂ = (.error (.refused x), s₃))
      (conflict : x.isConflict = true) (again : desk.replica.find key s₃ = (.error e, s₄)) :
      Course desk key s (.error e) s₄

/-! ### From call to call -/

section

variable {desk : Desk σ} {key : String} {s s' : σ} (steps : Nat)

open Errand (asked finish kept reread searched)

theorem finish_searching {answer : Attempt StoreError (Option Employee)}
    (h : desk.replica.find key s = (answer, s')) :
    finish desk (steps + 1) (.searching key) s = finish desk steps (searched key answer) s' := by
  simp only [finish, Errand.step, h]

theorem finish_asking {answer : Attempt RemoteError RemoteEmployee}
    (h : desk.source.employee key s = (answer, s')) :
    finish desk (steps + 1) (.asking key) s =
      finish desk steps (asked key (desk.now s') answer) s' := by
  simp only [finish, Errand.step, h]

theorem finish_keeping {candidate : Employee} {answer : Attempt StoreError Employee}
    (h : desk.replica.create candidate s = (answer, s')) :
    finish desk (steps + 1) (.keeping key candidate) s =
      finish desk steps (kept key answer) s' := by
  simp only [finish, Errand.step, h]

theorem finish_rereading {failure : StoreError} {answer : Attempt StoreError (Option Employee)}
    (h : desk.replica.find key s = (answer, s')) :
    finish desk (steps + 1) (.rereading key failure) s =
      finish desk steps (reread failure answer) s' := by
  simp only [finish, Errand.step, h]

theorem finish_settled (outcome : Attempt StoreError Resolution) :
    finish desk steps (.settled outcome) s = (outcome, s) := by
  rw [finish]

end

/-! ### The whole way -/

section

variable {desk : Desk σ} {key : String} {s s₁ s₂ s₃ : σ} {r : RemoteEmployee}

/-- The courses from a conflict on. -/
theorem course_of_conflict {x : StoreError} (hfind : desk.replica.find key s = (.ok none, s₁))
    (hask : desk.source.employee key s₁ = (.ok r, s₂)) (hkey : r.rssbNumber = key)
    (hcreate : desk.replica.create (r.adopt (desk.now s₂)) s₂ = (.error (.refused x), s₃))
    (hconflict : x.isConflict = true) {o : Attempt StoreError Resolution × σ}
    (ho : Errand.finish desk 1 (.rereading key x) s₃ = o) : Course desk key s o.1 o.2 := by
  rcases hagain : desk.replica.find key s₃ with ⟨answer, s₄⟩
  rw [finish_rereading 0 hagain] at ho
  subst ho
  rcases answer with e | _ | e
  · exact .unreread hfind hask hkey hcreate hconflict hagain
  · exact .vanished hfind hask hkey hcreate hconflict hagain
  · exact .overtaken hfind hask hkey hcreate hconflict hagain

/-- The courses from an employee with the right key on. -/
theorem course_of_asked (hfind : desk.replica.find key s = (.ok none, s₁))
    (hask : desk.source.employee key s₁ = (.ok r, s₂)) (hkey : r.rssbNumber = key)
    {o : Attempt StoreError Resolution × σ}
    (ho : Errand.finish desk 2 (.keeping key (r.adopt (desk.now s₂))) s₂ = o) :
    Course desk key s o.1 o.2 := by
  rcases hcreate : desk.replica.create (r.adopt (desk.now s₂)) s₂ with ⟨answer, s₃⟩
  rw [finish_keeping 1 hcreate] at ho
  rcases answer with (x | _) | e
  -- only a conflict leads on to another call
  · by_cases hconflict : x.isConflict = true
    · rw [Errand.kept, if_pos hconflict] at ho
      exact course_of_conflict hfind hask hkey hcreate hconflict ho
    · rw [Errand.kept, if_neg hconflict, finish_settled] at ho
      subst ho
      exact .unstored hfind hask hkey hcreate fun _ hx ↦ by cases hx; simpa using hconflict
  · subst ho
    exact .unstored hfind hask hkey hcreate nofun
  · subst ho
    exact .stored hfind hask hkey hcreate

/-- The courses from a vain search on. -/
theorem course_of_searched (hfind : desk.replica.find key s = (.ok none, s₁))
    {o : Attempt StoreError Resolution × σ} (ho : Errand.finish desk 3 (.asking key) s₁ = o) :
    Course desk key s o.1 o.2 := by
  rcases hask : desk.source.employee key s₁ with ⟨answer, s₂⟩
  rw [finish_asking 2 hask] at ho
  rcases answer with (x | _) | r
  · subst ho
    exact .refused hfind hask
  · subst ho
    exact .unanswered hfind hask
  · by_cases hkey : r.rssbNumber = key
    · rw [Errand.asked, if_pos hkey] at ho
      exact course_of_asked hfind hask hkey ho
    · rw [Errand.asked, if_neg hkey, finish_settled] at ho
      subst ho
      exact .mismatched hfind hask hkey

end

/-- **Every lookup takes one of the courses.** -/
theorem course_resolve (desk : Desk σ) (key : String) (s : σ) :
    Course desk key s (resolve desk key s).1 (resolve desk key s).2 := by
  rcases hfind : desk.replica.find key s with ⟨answer, s₁⟩
  rw [resolve, finish_searching 3 hfind]
  rcases answer with e | _ | e
  · exact .unsearched hfind
  · exact course_of_searched hfind rfl
  · exact .found hfind

/-! ### The way back -/

section

variable {desk : Desk σ} {key : String} {s s₁ s₂ s₃ : σ} {r : RemoteEmployee}

/-- A lookup that found nobody has a question to ask. -/
theorem resolve_of_searched (hfind : desk.replica.find key s = (.ok none, s₁)) :
    resolve desk key s = Errand.finish desk 3 (.asking key) s₁ := by
  rw [resolve, finish_searching 3 hfind]
  rfl

/-- A lookup that was told of the employee has one to store. -/
theorem resolve_of_asked (hfind : desk.replica.find key s = (.ok none, s₁))
    (hask : desk.source.employee key s₁ = (.ok r, s₂)) (hkey : r.rssbNumber = key) :
    resolve desk key s = Errand.finish desk 2 (.keeping key (r.adopt (desk.now s₂))) s₂ := by
  rw [resolve_of_searched hfind, finish_asking 2 hask, Errand.asked, if_pos hkey]

/-- A lookup that met a conflict has to search again. -/
theorem resolve_of_conflict {x : StoreError} (hfind : desk.replica.find key s = (.ok none, s₁))
    (hask : desk.source.employee key s₁ = (.ok r, s₂)) (hkey : r.rssbNumber = key)
    (hcreate : desk.replica.create (r.adopt (desk.now s₂)) s₂ = (.error (.refused x), s₃))
    (hconflict : x.isConflict = true) :
    resolve desk key s = Errand.finish desk 1 (.rereading key x) s₃ := by
  rw [resolve_of_asked hfind hask hkey, finish_keeping 1 hcreate, Errand.kept, if_pos hconflict]

/-- **A course is the lookup**: when the calls answer as it says, the lookup comes out as it does.
-/
theorem resolve_of_course {s' : σ} {outcome : Attempt StoreError Resolution}
    (h : Course desk key s outcome s') : resolve desk key s = (outcome, s') := by
  cases h with
  | unsearched find =>
    rw [resolve, finish_searching 3 find]
    rfl
  | found find =>
    rw [resolve, finish_searching 3 find]
    rfl
  | refused find ask =>
    rw [resolve_of_searched find, finish_asking 2 ask]
    rfl
  | unanswered find ask =>
    rw [resolve_of_searched find, finish_asking 2 ask]
    rfl
  | mismatched find ask key_ne =>
    rw [resolve_of_searched find, finish_asking 2 ask, Errand.asked, if_neg key_ne, finish_settled]
  | stored find ask key_eq create =>
    rw [resolve_of_asked find ask key_eq, finish_keeping 1 create]
    rfl
  | @unstored _ e _ _ _ find ask key_eq create reason =>
    rw [resolve_of_asked find ask key_eq, finish_keeping 1 create]
    rcases e with x | _
    · rw [Errand.kept, if_neg (Bool.eq_false_iff.1 (reason x rfl)), finish_settled]
    · rfl
  | overtaken find ask key_eq create conflict again =>
    rw [resolve_of_conflict find ask key_eq create conflict, finish_rereading 0 again]
    rfl
  | vanished find ask key_eq create conflict again =>
    rw [resolve_of_conflict find ask key_eq create conflict, finish_rereading 0 again]
    rfl
  | unreread find ask key_eq create conflict again =>
    rw [resolve_of_conflict find ask key_eq create conflict, finish_rereading 0 again]
    rfl

end

/-! ### Failures -/

/-- A call on the replica fails a lookup, and what it fails with. -/
inductive FailsWith (desk : Desk σ) (key : String) (s : σ) : Failure StoreError → Prop where
  /-- The replica cannot be searched. -/
  | search {e : Failure StoreError} {s₁ : σ} (find : desk.replica.find key s = (.error e, s₁)) :
      FailsWith desk key s e
  /-- It cannot store the employee, for another reason than a conflict. -/
  | store {r : RemoteEmployee} {e : Failure StoreError} {s₁ s₂ s₃ : σ}
      (find : desk.replica.find key s = (.ok none, s₁))
      (ask : desk.source.employee key s₁ = (.ok r, s₂)) (key_eq : r.rssbNumber = key)
      (create : desk.replica.create (r.adopt (desk.now s₂)) s₂ = (.error e, s₃))
      (reason : ∀ x, e = .refused x → x.isConflict = false) : FailsWith desk key s e
  /-- Storing conflicts, and the second search finds nobody who could be in the way. -/
  | conflict {r : RemoteEmployee} {x : StoreError} {s₁ s₂ s₃ s₄ : σ}
      (find : desk.replica.find key s = (.ok none, s₁))
      (ask : desk.source.employee key s₁ = (.ok r, s₂)) (key_eq : r.rssbNumber = key)
      (create : desk.replica.create (r.adopt (desk.now s₂)) s₂ = (.error (.refused x), s₃))
      (conflict : x.isConflict = true) (again : desk.replica.find key s₃ = (.ok none, s₄)) :
      FailsWith desk key s (.refused x)
  /-- Storing conflicts, and the replica cannot be searched again. -/
  | reread {r : RemoteEmployee} {x : StoreError} {e : Failure StoreError} {s₁ s₂ s₃ s₄ : σ}
      (find : desk.replica.find key s = (.ok none, s₁))
      (ask : desk.source.employee key s₁ = (.ok r, s₂)) (key_eq : r.rssbNumber = key)
      (create : desk.replica.create (r.adopt (desk.now s₂)) s₂ = (.error (.refused x), s₃))
      (conflict : x.isConflict = true) (again : desk.replica.find key s₃ = (.error e, s₄)) :
      FailsWith desk key s e

/-- Master data is asked and never answers. -/
def Unanswered (desk : Desk σ) (key : String) (s : σ) : Prop :=
  ∃ s₁ s₂, desk.replica.find key s = (.ok none, s₁) ∧
    desk.source.employee key s₁ = (.error .abandoned, s₂)

section

variable {desk : Desk σ} {key : String} {s s' : σ}

/-- The outcome of a course is that of the lookup. -/
theorem outcome_of_course {outcome : Attempt StoreError Resolution}
    (h : Course desk key s outcome s') : (resolve desk key s).1 = outcome :=
  congrArg Prod.fst (resolve_of_course h)

/-- A course that ends without an outcome has met a call that failed. -/
theorem Course.failsWith {e : Failure StoreError} (h : Course desk key s (.error e) s') :
    FailsWith desk key s e ∨ e = .abandoned ∧ Unanswered desk key s := by
  cases h with
  | unsearched find => exact .inl (.search find)
  | unanswered find ask => exact .inr ⟨rfl, _, _, find, ask⟩
  | unstored find ask key_eq create reason => exact .inl (.store find ask key_eq create reason)
  | vanished find ask key_eq create conflict again =>
    exact .inl (.conflict find ask key_eq create conflict again)
  | unreread find ask key_eq create conflict again =>
    exact .inl (.reread find ask key_eq create conflict again)

/-- **When a lookup fails, and with what**: with what a call on the replica has failed with, or
because master data never answers. -/
theorem resolve_eq_error_iff {e : Failure StoreError} : (resolve desk key s).1 = .error e ↔
    FailsWith desk key s e ∨ e = .abandoned ∧ Unanswered desk key s := by
  constructor
  · intro h
    have hcourse := course_resolve desk key s
    rw [h] at hcourse
    exact hcourse.failsWith
  · rintro (hfails | ⟨rfl, s₁, s₂, find, ask⟩)
    · cases hfails with
      | search find => exact outcome_of_course (.unsearched find)
      | store find ask key_eq create reason =>
        exact outcome_of_course (.unstored find ask key_eq create reason)
      | conflict find ask key_eq create conflict again =>
        exact outcome_of_course (.vanished find ask key_eq create conflict again)
      | reread find ask key_eq create conflict again =>
        exact outcome_of_course (.unreread find ask key_eq create conflict again)
    · exact outcome_of_course (.unanswered find ask)

end

/-! ### What lookups keep -/

theorem finish_succ (desk : Desk σ) (steps : Nat) (errand : Errand) (s : σ) :
    Errand.finish desk (steps + 1) errand s =
      Errand.finish desk steps (errand.step desk s).1 (errand.step desk s).2 := by
  match errand with
  | .searching _ | .asking _ | .keeping _ _ | .rereading _ _ => rfl
  | .settled outcome =>
    rw [finish_settled, Errand.step, finish_settled]

/-- **What the calls keep, a lookup keeps.** -/
theorem resolve_keeps (desk : Desk σ) (Keeps : σ → Prop)
    (hfind : ∀ key s, Keeps s → Keeps (desk.replica.find key s).2)
    (hask : ∀ key s, Keeps s → Keeps (desk.source.employee key s).2)
    (hcreate : ∀ e s, Keeps s → Keeps (desk.replica.create e s).2) (key : String) {s : σ}
    (h : Keeps s) : Keeps (resolve desk key s).2 := by
  have hstep (errand : Errand) (s : σ) (h : Keeps s) : Keeps (errand.step desk s).2 := by
    match errand with
    | .searching key => exact hfind key s h
    | .asking key => exact hask key s h
    | .keeping key candidate => exact hcreate candidate s h
    | .rereading key failure => exact hfind key s h
    | .settled outcome => exact h
  have hfinish (steps : Nat) (errand : Errand) (s : σ) (h : Keeps s) :
      Keeps (Errand.finish desk steps errand s).2 := by
    induction steps generalizing errand s with
    | zero =>
      match errand with
      | .searching _ | .asking _ | .keeping _ _ | .rereading _ _ | .settled _ => exact h
    | succ steps ih =>
      rw [finish_succ]
      exact ih _ _ (hstep errand s h)
  exact hfinish 4 (.searching key) s h

end ContributionRegistry.Replica
