import ContributionRegistry.Database.Schema
import ContributionRegistry.Proofs.Database.Rows

/-!
# A database that carries statements out

What a database does with the statements that the registry tells it, read from their texts. A row is
the values of its columns under a primary key: inserting writes them over whatever is under the key,
unless the statement is only to be carried out if nothing is; selecting gives the rows that have a
value in a column, in any order. Times are kept to the millisecond, as values are.

The tables are those that opening a database makes (`schema_eq`). The order in which rows come is
not known to anybody, so it is a parameter (`Arrangement`), and it may be another one each time.

Reading the texts is part of the matter: a condition left out of a statement, or columns in another
order than their values, make another command (`Command.read?`). What a statement does is found by
reading it once (`run_of_read`), and is from then on a fact about `Data.insert` and `Data.select`.
-/

namespace ContributionRegistry.Database

open Text (words)

/-! ### Tables -/

/-- A table: its columns with their types, the primary key first, and those that rows are looked up
by besides it. -/
structure Table where
  /-- The name of the table. -/
  name : String
  /-- The primary key, which is a text. -/
  key : String
  /-- The other columns. -/
  rest : List (String × ColumnType)
  /-- The columns that rows are looked up by besides the key. -/
  indexed : List String := []

namespace Table

/-- The table of employees. -/
def employees : Table where
  name := "employees"
  key := "rssb_number"
  rest := [("id", .text), ("firstname", .text), ("lastname", .text), ("dob", .date),
    ("created_at", .timestamp), ("updated_at", .timestamp)]

/-- The table of employers. -/
def employers : Table where
  name := "employers"
  key := "matricule"
  rest := [("id", .text), ("name", .text), ("created_at", .timestamp), ("updated_at", .timestamp)]

/-- The table of contributions. -/
def contributions : Table where
  name := "contributions"
  key := "id"
  rest := [("period", .text), ("rssb_number", .text), ("matricule", .text), ("amount", .text),
    ("created_at", .timestamp), ("updated_at", .timestamp)]
  indexed := ["rssb_number", "period", "matricule"]

/-- The table of a name. -/
def ofName? (name : String) : Option Table :=
  [employees, employers, contributions].find? fun t ↦ t.name == name

/-- All columns. Keys are texts. -/
def columns (t : Table) : List (String × ColumnType) := (t.key, .text) :: t.rest

end Table

/-- The name of a type of columns. -/
def ColumnType.name : ColumnType → String
  | .text => "text"
  | .date => "date"
  | .timestamp => "timestamp"
  | .boolean => "boolean"

/-- What a statement says that makes a table, after the name of the keyspace. -/
def Table.layout (t : Table) : String :=
  "." ++ t.name ++ " ( " ++ t.key ++ " text PRIMARY KEY, " ++
    ", ".intercalate (t.rest.map fun (name, type) ↦ s!"{name} {type.name}") ++ " )"

/-- The statement that makes a table. -/
def Table.statement (keyspace : String) (t : Table) : String :=
  s!"CREATE TABLE IF NOT EXISTS {keyspace}" ++ t.layout

/-- What a table's statement says, with the layout in two pieces. -/
theorem Table.statement_eq {t : Table} {start rest : String} (hlayout : t.layout = start ++ rest)
    (keyspace : String) :
    t.statement keyspace = s!"CREATE TABLE IF NOT EXISTS {keyspace}" ++ start ++ rest := by
  unfold Table.statement
  rw [hlayout, ← String.append_assoc]

/-- **Opening a database makes these tables**, and the indexes that rows are looked up by. -/
theorem schema_eq (keyspace : String) (replicationFactor : Nat) :
    schema keyspace replicationFactor = ((createKeyspace keyspace replicationFactor ::
      [Table.employees, .employers, .contributions].map (Table.statement keyspace)) ++
        Table.contributions.indexed.map (createIndex keyspace)).map fun cql ↦ { cql } := by
  have hemployees : Table.employees.statement keyspace = createEmployees keyspace :=
    Table.statement_eq (by decide +kernel) keyspace
  have hemployers : Table.employers.statement keyspace = createEmployers keyspace :=
    Table.statement_eq (by decide +kernel) keyspace
  have hcontributions : Table.contributions.statement keyspace = createContributions keyspace :=
    Table.statement_eq (by decide +kernel) keyspace
  simp only [List.map_cons, List.map_nil, hemployees, hemployers, hcontributions]
  rfl

/-! ### Statements as they are read -/

/-- What a statement tells. -/
inductive Command where
  /-- To write values into columns; with `ifFree`, only if there is nothing under the key. -/
  | insert (table : String) (columns : List String) (ifFree : Bool)
  /-- To show columns of rows, of all of them or of those that have a value in a column. -/
  | select (columns : List String) (table : String) (filter : Option String)
  deriving DecidableEq, Repr

namespace Command

/-- The words of a statement. Brackets and commas are words by themselves. -/
def wordsOf (cql : String) : List String :=
  let apart := cql.toList.flatMap fun c ↦ if "(,)".toList.contains c then [' ', c, ' '] else [c]
  (words apart).map String.ofList

/-- Reads names with commas between them. -/
def readNames : List String → Option (List String × List String)
  | name :: "," :: rest => (readNames rest).map fun (names, rest) ↦ (name :: names, rest)
  | name :: rest => some ([name], rest)
  | [] => none

/-- Reads what stands after `INSERT INTO`. There is a mark for each column. -/
def readInsert : List String → Option Command
  | table :: "(" :: rest =>
    match readNames rest with
    | some (columns, ")" :: "VALUES" :: "(" :: rest) =>
      match readNames rest with
      | some (marks, ending) =>
        if marks = columns.map fun _ ↦ "?" then
          match ending with
          | [")"] => some (.insert table columns false)
          | [")", "IF", "NOT", "EXISTS"] => some (.insert table columns true)
          | _ => none
        else none
      | none => none
    | _ => none
  | _ => none

/-- Reads what stands after `SELECT`. -/
def readSelect (text : List String) : Option Command :=
  match readNames text with
  | some (columns, ["FROM", table]) => some (.select columns table none)
  | some (columns, ["FROM", table, "WHERE", column, "=", "?"]) =>
    some (.select columns table (some column))
  | _ => none

/-- Reads a statement. -/
def read? (cql : String) : Option Command :=
  match wordsOf cql with
  | "INSERT" :: "INTO" :: rest => readInsert rest
  | "SELECT" :: rest => readSelect rest
  | _ => none

end Command

/-! ### What is kept -/

/-- What is kept under a primary key: the values of columns. -/
abbrev Entry : Type := List (String × Value)

namespace Entry

/-- What is shown of a column. -/
def cell (e : Entry) (column : String) : Cell :=
  match e.lookup column with
  | some v => .value v
  | none => .null

/-- New values over old ones. -/
def onto (new old : Entry) : Entry :=
  new ++ old.filter fun value ↦ (new.lookup value.1).isNone

end Entry

/-- The type of the columns that may have a value. -/
def Value.type : Value → ColumnType
  | .text _ => .text
  | .date _ => .date
  | .timestamp _ => .timestamp
  | .boolean _ => .boolean

/-- The primary key among values, if it is there. An empty text is none. -/
def Table.key? (t : Table) (e : Entry) : Option String :=
  match e.lookup t.key with
  | some (.text key) => if key.isEmpty then none else some key
  | _ => none

/-- Whether values may be written: columns and types are those of the table. -/
def Table.accepts (t : Table) (e : Entry) : Bool :=
  e.all fun (column, v) ↦ t.columns.lookup column == some v.type

/-- Whether rows may be looked up by a value in a column. -/
def Table.looksUp (t : Table) (column : String) (v : Value) : Bool :=
  (column == t.key || t.indexed.contains column) && t.columns.lookup column == some v.type

/-- What is in the tables. -/
structure Data where
  /-- The rows of each table, by its name. -/
  entries : String → List Entry := fun _ ↦ []
  /-- How often rows have been selected. -/
  selections : Nat := 0

/-- An order for rows to come in, each time that some are selected. -/
structure Arrangement where
  /-- The order, which may depend on how often rows have been selected. -/
  arrange : Nat → List Entry → List Entry
  /-- No row is lost or comes twice. -/
  perm : ∀ n entries, (arrange n entries).Perm entries

/-! ### Carrying statements out -/

namespace Data

/-- The same data with other entries in a table. -/
def put (d : Data) (table : String) (entries : List Entry) : Data :=
  { d with entries := fun name ↦ if name = table then entries else d.entries name }

/-- Writes values under their key. Where the statement depends on there being nothing, the answer
says whether there was, and what. -/
def insert (d : Data) (t : Table) (new : Entry) (ifFree : Bool) : Answer × Data :=
  match t.key? new with
  | none => (.failed "no key", d)
  | some key =>
    let old := (d.entries t.name).find? fun e ↦ t.key? e == some key
    let others := (d.entries t.name).filter fun e ↦ t.key? e != some key
    let written := d.put t.name (others ++ [new.onto (old.getD [])])
    if ifFree then
      (.rows (.boolean :: t.columns.map Prod.snd) [.value (.boolean old.isNone) ::
        t.columns.map fun column ↦ (old.getD []).cell column.1],
        if old.isNone then written else d)
    else (.done, written)

/-- Shows columns of the entries that pass. -/
def select (a : Arrangement) (d : Data) (t : Table) (columns : List String)
    (passes : Entry → Bool) : Answer × Data :=
  match columns.mapM fun column ↦ t.columns.lookup column with
  | none => (.failed "no such column", d)
  | some types =>
    (.rows types ((a.arrange d.selections ((d.entries t.name).filter passes)).map fun e ↦
      columns.map e.cell), { d with selections := d.selections + 1 })

/-- Carries a command out with the values for its marks. -/
def carryOut (a : Arrangement) (d : Data) (values : List Value) : Command → Answer × Data
  | .insert table columns ifFree =>
    match Table.ofName? table with
    | some t =>
      if columns.length = values.length ∧ t.accepts (columns.zip values) then
        d.insert t (columns.zip values) ifFree
      else (.failed "no such columns", d)
    | none => (.failed "no such table", d)
  | .select columns table filter =>
    match Table.ofName? table, filter, values with
    | some t, none, [] => d.select a t columns fun _ ↦ true
    | some t, some column, [v] =>
      if t.looksUp column v then d.select a t columns fun e ↦ e.lookup column == some v
      else (.failed "no such index", d)
    | _, _, _ => (.failed "no such table, or other values", d)

end Data

/-- A conversation with a database that carries statements out. It asks nobody for a password. -/
def engine (a : Arrangement) : Session Data where
  introduce _ d := (true, d)
  run statement d :=
    match Command.read? statement.cql with
    | some command => d.carryOut a statement.values command
    | none => (.failed "no statement", d)

/-! ### Small facts -/

namespace Entry

/-- With nothing to write over, an entry is as it is. -/
@[simp] theorem onto_nil (e : Entry) : e.onto [] = e := List.append_nil e

end Entry

namespace Data

@[simp] theorem entries_put_self (d : Data) (table : String) (entries : List Entry) :
    (d.put table entries).entries table = entries := if_pos rfl

/-- A statement is carried out as the command that it reads as. -/
theorem run_of_read {a : Arrangement} {statement : Statement} {command : Command}
    (h : Command.read? statement.cql = some command) (d : Data) :
    (engine a).run statement d = d.carryOut a statement.values command := by
  simp only [engine, h]

/-- What is written where there is nothing under the key. -/
theorem insert_of_free {d : Data} {t : Table} {new : Entry} {key : String}
    (hkey : t.key? new = some key) (hfree : ∀ e ∈ d.entries t.name, t.key? e ≠ some key)
    (ifFree : Bool) : (d.insert t new ifFree).2 = d.put t.name (d.entries t.name ++ [new]) := by
  have hnone : (d.entries t.name).find? (fun e ↦ t.key? e == some key) = none :=
    List.find?_eq_none.2 fun e he ↦ by simpa using hfree e he
  have hothers : (d.entries t.name).filter (fun e ↦ t.key? e != some key) = d.entries t.name :=
    List.filter_eq_self.2 fun e he ↦ by simpa using hfree e he
  simp only [insert, hkey, hnone, hothers, Option.getD_none, Entry.onto_nil, Option.isNone_none,
    if_true]
  split <;> rfl

/-- An unconditional insertion does not tell what was under the key. -/
theorem insert_answer {d : Data} {t : Table} {new : Entry} {key : String}
    (hkey : t.key? new = some key) : (d.insert t new false).1 = .done := by
  simp only [insert, hkey]
  rfl

end Data

end ContributionRegistry.Database
