import ContributionRegistry.Proofs.Database.ContributionTables
import ContributionRegistry.Proofs.Database.RecordTables

/-!
# Employees and employers in memory and in a database

Asked about employees and employers in any order, a registry in memory and one in a database reply
alike (`keyed_replies_agree`): they accept and refuse the same records for the same reasons, find
the same ones, and list them all newest first. What either has accepted is found from then on.

A call about one kind leaves the table of the other as it is, so it is enough that each table has
the records of its shelf (`KeyedBeside`), whatever kind the next call is about. The two kinds are
instances of one argument (`RecordTable`), and what is left for this module is to say which tables
they are and to put the two together.

Unlike contributions, the two kinds need no condition on the calls but that keys are not empty and
times are told by milliseconds: they are inserted only where nothing is.
-/

namespace ContributionRegistry

open Calendar (Date Timestamp)

/-! ### What a registry replies about its keyed records -/

namespace MasterStore

/-- What a registry is asked about employees and employers. -/
inductive KeyedCall where
  | employees (call : RecordStore.Call Employee)
  | employers (call : RecordStore.Call Employer)

/-- What it replies. -/
inductive KeyedReply where
  | employees (reply : RecordStore.Reply Employee)
  | employers (reply : RecordStore.Reply Employer)

/-- Two replies are the same, up to the order of records that are equally new. -/
inductive KeyedReply.Agrees : KeyedReply → KeyedReply → Prop where
  | employees {reply reply' : RecordStore.Reply Employee}
      (agrees : RecordStore.Reply.Agrees Employee.createdAt reply reply') :
      Agrees (.employees reply) (.employees reply')
  | employers {reply reply' : RecordStore.Reply Employer}
      (agrees : RecordStore.Reply.Agrees Employer.createdAt reply reply') :
      Agrees (.employers reply) (.employers reply')

variable {σ : Type}

/-- The reply to a call, and what it leaves behind. -/
def keyedReply (store : MasterStore σ) : KeyedCall → σ → KeyedReply × σ
  | .employees call, s => (store.employees.reply call s).map .employees id
  | .employers call, s => (store.employers.reply call s).map .employers id

/-- What calls leave behind, one after another. -/
def afterKeyed (store : MasterStore σ) (calls : List KeyedCall) (s : σ) : σ :=
  History.run (fun s call ↦ (store.keyedReply call s).2) s calls

/-- The replies to calls, one after another. -/
def keyedReplies (store : MasterStore σ) : List KeyedCall → σ → List KeyedReply
  | [], _ => []
  | call :: calls, s =>
    (store.keyedReply call s).1 :: store.keyedReplies calls (store.keyedReply call s).2

/-- What is accepted is the record that was to be created, and it is found from then on: `kind` is
the store of its kind, and `asked` is how the registry is asked about it. -/
def Keeps {ρ : Type} [Keyed ρ] (store : MasterStore σ) (kind : RecordStore σ ρ)
    (asked : RecordStore.Call ρ → KeyedCall) (start : σ) (calls : List KeyedCall) : Prop :=
  ∀ earlier r later, calls = earlier ++ asked (.create r) :: later →
    ∀ r', (kind.create r (store.afterKeyed earlier start)).1 = .ok r' →
      r' = r ∧ (kind.find (Keyed.key r) (store.afterKeyed calls start)).1 = .ok (some r)

end MasterStore

namespace Database

open MasterStore (KeyedCall KeyedReply)

/-! ### The two tables -/

/-- A date is read back from its value. -/
theorem readDate_ofDate (d : Date) : readDate (.value (.ofDate d)) = .ok d := by
  have hfound := Date.ofDayNumber?_dayNumber d
  unfold Value.ofDate readDate
  dsimp only
  rw [hfound]

/-- Employees in their table. -/
def employeeTable : RecordTable Employee where
  table := .employees
  written := ["rssb_number", "id", "firstname", "lastname", "dob", "created_at", "updated_at"]
  shown := ["id", "firstname", "lastname", "rssb_number", "dob", "created_at", "updated_at"]
  types := employeeColumns
  insert := insertEmployee
  select := selectEmployee
  selectAll := selectEmployees
  ofRow := employeeOfRow
  created := Employee.createdAt
  updated := Employee.updatedAt
  run_insert a e d := by
    have hread : Command.read? (insertEmployee e).cql = some (.insert "employees" ["rssb_number",
        "id", "firstname", "lastname", "dob", "created_at", "updated_at"] true) := by
      show Command.read? (
        "INSERT INTO employees ( rssb_number, id, firstname, lastname, dob, created_at, " ++
          "updated_at ) VALUES (?, ?, ?, ?, ?, ?, ?) IF NOT EXISTS") = _
      decide +kernel
    rw [Data.run_of_read hread]
    rfl
  run_select a key d := by
    have hread : Command.read? (selectEmployee key).cql = some (.select
        ["id", "firstname", "lastname", "rssb_number", "dob", "created_at", "updated_at"]
        "employees" (some "rssb_number")) := by
      show Command.read? s!"SELECT {employeeNames} FROM employees WHERE rssb_number = ?" = _
      decide +kernel
    rw [Data.run_of_read hread]
    rfl
  run_selectAll a d := by
    have hread : Command.read? selectEmployees.cql = some (.select
        ["id", "firstname", "lastname", "rssb_number", "dob", "created_at", "updated_at"]
        "employees" none) := by decide +kernel
    rw [Data.run_of_read hread]
    rfl
  types_shown := rfl
  lookup_key _ := rfl
  ofRow_shown e hcreated hupdated := by
    show employeeOfRow [_, _, _, _, .value (.ofDate e.dob), .value (.ofTimestamp e.createdAt),
      .value (.ofTimestamp e.updatedAt)] = _
    simp only [employeeOfRow, readDate_ofDate, readTimestamp_ofTimestamp hcreated,
      readTimestamp_ofTimestamp hupdated]
    rfl

/-- Employers in their table. -/
def employerTable : RecordTable Employer where
  table := .employers
  written := ["matricule", "id", "name", "created_at", "updated_at"]
  shown := ["id", "name", "matricule", "created_at", "updated_at"]
  types := employerColumns
  insert := insertEmployer
  select := selectEmployer
  selectAll := selectEmployers
  ofRow := employerOfRow
  created := Employer.createdAt
  updated := Employer.updatedAt
  run_insert a e d := by
    have hread : Command.read? (insertEmployer e).cql = some (.insert "employers"
        ["matricule", "id", "name", "created_at", "updated_at"] true) := by
      show Command.read? (
        "INSERT INTO employers (matricule, id, name, created_at, updated_at) " ++
          "VALUES (?, ?, ?, ?, ?) IF NOT EXISTS") = _
      decide +kernel
    rw [Data.run_of_read hread]
    rfl
  run_select a key d := by
    have hread : Command.read? (selectEmployer key).cql = some (.select
        ["id", "name", "matricule", "created_at", "updated_at"] "employers"
        (some "matricule")) := by
      show Command.read? s!"SELECT {employerNames} FROM employers WHERE matricule = ?" = _
      decide +kernel
    rw [Data.run_of_read hread]
    rfl
  run_selectAll a d := by
    have hread : Command.read? selectEmployers.cql = some (.select
        ["id", "name", "matricule", "created_at", "updated_at"] "employers" none) := by
      decide +kernel
    rw [Data.run_of_read hread]
    rfl
  types_shown := rfl
  lookup_key _ := rfl
  ofRow_shown e hcreated hupdated := by
    show employerOfRow [_, _, _, .value (.ofTimestamp e.createdAt),
      .value (.ofTimestamp e.updatedAt)] = _
    simp only [employerOfRow, readTimestamp_ofTimestamp hcreated,
      readTimestamp_ofTimestamp hupdated]
    rfl

/-- What a registry can be asked: keys are not empty, and times are told by milliseconds. -/
def Admits : KeyedCall → Prop
  | .employees call => employeeTable.Admits call
  | .employers call => employerTable.Admits call

/-- A registry in memory replies about employees as their shelf does. -/
theorem memory_employees (call : RecordStore.Call Employee) (m : MemoryStore) :
    MemoryStore.stores.keyedReply (.employees call) m =
      ((Shelf.store Employee.createdAt).reply call m.employees).map .employees
        fun shelf ↦ { m with employees := shelf } := by
  cases call <;> rfl

/-- A registry in memory replies about employers as their shelf does. -/
theorem memory_employers (call : RecordStore.Call Employer) (m : MemoryStore) :
    MemoryStore.stores.keyedReply (.employers call) m =
      ((Shelf.store Employer.createdAt).reply call m.employers).map .employers
        fun shelf ↦ { m with employers := shelf } := by
  cases call <;> rfl

/-- A registry in a database replies about employees as their table does. -/
theorem database_employees {σ : Type} (session : Session σ) :
    session.stores.employees = employeeTable.store session := rfl

/-- A registry in a database replies about employers as their table does. -/
theorem database_employers {σ : Type} (session : Session σ) :
    session.stores.employers = employerTable.store session := rfl

/-! ### Memory and database side by side -/

/-- Memory and database have the same employees and employers. -/
structure KeyedBeside (m : MemoryStore) (d : Data) : Prop where
  /-- The table of employees has the records of the shelf. -/
  employees : employeeTable.Holds m.employees d
  /-- The table of employers has the records of the shelf. -/
  employers : employerTable.Holds m.employers d

/-- The records in memory have become more, or are the same. -/
structure Grown (m m' : MemoryStore) : Prop where
  /-- The employees are still there, in the same order. -/
  employees : m.employees.records <+: m'.employees.records
  /-- The employers are still there, in the same order. -/
  employers : m.employers.records <+: m'.employers.records

section

variable {a : Arrangement} {m : MemoryStore} {d : Data}

/-- **A call is answered alike**, and leaves both with the same records. -/
theorem KeyedBeside.reply (h : KeyedBeside m d) (a : Arrangement) {call : KeyedCall}
    (hcall : Admits call) :
    KeyedReply.Agrees (MemoryStore.stores.keyedReply call m).1
        ((engine a).stores.keyedReply call d).1 ∧
      KeyedBeside (MemoryStore.stores.keyedReply call m).2
        ((engine a).stores.keyedReply call d).2 ∧
      Grown m (MemoryStore.stores.keyedReply call m).2 := by
  cases call with
  | employees call =>
    obtain ⟨hagrees, hholds, hothers⟩ := h.employees.reply a hcall
    rw [memory_employees, MasterStore.keyedReply, database_employees]
    refine ⟨.employees hagrees, ⟨hholds, ?_⟩, ⟨Shelf.prefix_reply .., List.prefix_refl _⟩⟩
    exact h.employers.of_others (by decide) hothers
  | employers call =>
    obtain ⟨hagrees, hholds, hothers⟩ := h.employers.reply a hcall
    rw [memory_employers, MasterStore.keyedReply, database_employers]
    refine ⟨.employers hagrees, ⟨?_, hholds⟩, ⟨List.prefix_refl _, Shelf.prefix_reply ..⟩⟩
    exact h.employees.of_others (by decide) hothers

/-- All calls are replied to alike. -/
theorem KeyedBeside.replies (h : KeyedBeside m d) (a : Arrangement) {calls : List KeyedCall}
    (hcalls : ∀ call ∈ calls, Admits call) :
    List.Forall₂ KeyedReply.Agrees (MemoryStore.stores.keyedReplies calls m)
      ((engine a).stores.keyedReplies calls d) := by
  induction calls generalizing m d with
  | nil => exact .nil
  | cons call calls ih =>
    obtain ⟨hfirst, hrest⟩ := List.forall_mem_cons.1 hcalls
    obtain ⟨hagrees, hnext, -⟩ := h.reply a hfirst
    exact .cons hagrees (ih hnext hrest)

/-- After all calls the tables have the records of the shelves. -/
theorem KeyedBeside.after (h : KeyedBeside m d) (a : Arrangement) {calls : List KeyedCall}
    (hcalls : ∀ call ∈ calls, Admits call) :
    KeyedBeside (MemoryStore.stores.afterKeyed calls m) ((engine a).stores.afterKeyed calls d) ∧
      Grown m (MemoryStore.stores.afterKeyed calls m) := by
  induction calls generalizing m d with
  | nil => exact ⟨h, ⟨List.prefix_refl _, List.prefix_refl _⟩⟩
  | cons call calls ih =>
    obtain ⟨hfirst, hrest⟩ := List.forall_mem_cons.1 hcalls
    obtain ⟨-, hnext, hgrown⟩ := h.reply a hfirst
    obtain ⟨hbeside, hgrown'⟩ := ih hnext hrest
    exact ⟨hbeside, ⟨hgrown.employees.trans hgrown'.employees,
      hgrown.employers.trans hgrown'.employers⟩⟩

/-- Before a call and after all calls there is a memory beside the database, and in between its
records have only become more. -/
theorem KeyedBeside.around (h : KeyedBeside m d) (a : Arrangement) {earlier later : List KeyedCall}
    {call : KeyedCall} (hcalls : ∀ c ∈ earlier ++ call :: later, Admits c) :
    Admits call ∧ ∃ before now, KeyedBeside before ((engine a).stores.afterKeyed earlier d) ∧
      KeyedBeside now ((engine a).stores.afterKeyed (earlier ++ call :: later) d) ∧
      Grown (MemoryStore.stores.keyedReply call before).2 now := by
  obtain ⟨hearlier, hlater⟩ := List.forall_mem_append.1 hcalls
  obtain ⟨hcall, hlater⟩ := List.forall_mem_cons.1 hlater
  obtain ⟨hbefore, -⟩ := h.after a hearlier
  obtain ⟨-, hnext, -⟩ := hbefore.reply a hcall
  obtain ⟨hnow, hgrown⟩ := hnext.after a hlater
  have hsplit : (engine a).stores.afterKeyed (earlier ++ call :: later) d = _ :=
    History.run_append earlier (call :: later)
  exact ⟨hcall, _, _, hbefore, hsplit ▸ hnow, hgrown⟩

/-- **Memory and a database reply alike about employees and employers**, whatever the order of the
calls and that of the rows. A record that the database accepts is the one it was told, and it is
found from then on. -/
theorem keyed_replies_agree (a : Arrangement) {calls : List KeyedCall}
    (hcalls : ∀ call ∈ calls, Admits call) :
    let memory := MemoryStore.stores
    let database := (engine a).stores
    List.Forall₂ KeyedReply.Agrees (memory.keyedReplies calls .empty)
        (database.keyedReplies calls {}) ∧
      database.Keeps database.employees .employees {} calls ∧
      database.Keeps database.employers .employers {} calls := by
  intro memory database
  have hempty : KeyedBeside .empty {} := ⟨employeeTable.holds_empty, employerTable.holds_empty⟩
  refine ⟨hempty.replies a hcalls, ?_, ?_⟩
  · rintro earlier r later rfl r' hok
    obtain ⟨hcall, before, now, hbefore, hnow, hgrown⟩ := hempty.around a hcalls
    have hprefix := hgrown.employees
    rw [memory_employees] at hprefix
    exact hbefore.employees.kept hcall hok hprefix hnow.employees
  · rintro earlier r later rfl r' hok
    obtain ⟨hcall, before, now, hbefore, hnow, hgrown⟩ := hempty.around a hcalls
    have hprefix := hgrown.employers
    rw [memory_employers] at hprefix
    exact hbefore.employers.kept hcall hok hprefix hnow.employers

end

/-- An employee who was entered at the start of 1970, and born then. -/
def entered (id rssbNumber : String) : Employee where
  id := id
  firstname := "Ann"
  lastname := "Lee"
  rssbNumber := rssbNumber
  dob := .epoch
  createdAt := .startOf .epoch
  updatedAt := .startOf .epoch

theorem fileable_entered (id : String) {rssbNumber : String} (h : rssbNumber ≠ "") :
    employeeTable.Fileable (entered id rssbNumber) :=
  ⟨h, Timestamp.countable_startOf .epoch, Timestamp.countable_startOf .epoch⟩

/-- A key that is taken, and two employees of the same time. -/
theorem keyed_replies_agree_taken :
    let calls : List KeyedCall := [.employees (.create (entered "a" "7A")),
      .employees (.create (entered "b" "7A")), .employees (.create (entered "c" "8A")),
      .employees .all, .employers (.find "3B")]
    let database := (engine latestFirst).stores
    List.Forall₂ KeyedReply.Agrees (MemoryStore.stores.keyedReplies calls .empty)
        (database.keyedReplies calls {}) ∧
      (database.employees.find "7A" (database.afterKeyed calls {})).1 =
        .ok (some (entered "a" "7A")) := by
  intro calls database
  have hcalls : ∀ call ∈ calls, Admits call := by
    intro call hcall
    simp only [calls, List.mem_cons, List.not_mem_nil, or_false] at hcall
    rcases hcall with rfl | rfl | rfl | rfl | rfl
    · exact fileable_entered "a" (by decide)
    · exact fileable_entered "b" (by decide)
    · exact fileable_entered "c" (by decide)
    · trivial
    · exact show "3B" ≠ "" by decide
  obtain ⟨hagree, hkept, -⟩ := keyed_replies_agree latestFirst hcalls
  have hok : (database.employees.create (entered "a" "7A") {}).1 = .ok (entered "a" "7A") :=
    (employeeTable.holds_empty.create latestFirst (fileable_entered "a" (by decide))).1
  exact ⟨hagree, (hkept [] _ _ rfl _ hok).2⟩

end Database

end ContributionRegistry
