import ContributionRegistry.Action
import ContributionRegistry.Calendar.Timestamp
import ContributionRegistry.Store.Error
import ContributionRegistry.Text.Utf8

/-!
# Statements and rows

What a database is told, and what it answers. A statement is a text with values for the marks in it;
an answer may be rows of cells. A cell may be empty, or hold what its column cannot: then a row that
should be made into a record is a failure of the database.

A database is a conversation (`Session`): a function from statements to answers on a state of its
own. Nothing is assumed of it here. What a database does that keeps its rows as they were inserted
is said where facts about stores in databases need it.

Values lose what the database does not keep (`Value.ofTimestamp`): a time is a number of
milliseconds, so only times of whole milliseconds come back as they were.
-/

namespace ContributionRegistry.Database

open Calendar (Date Timestamp)

/-- The types of columns. -/
inductive ColumnType where
  | text
  | date
  | timestamp
  | boolean
  deriving DecidableEq, Repr

/-- A value. Dates count days and timestamps milliseconds from the start of 1970. -/
inductive Value where
  | text (s : String)
  | date (day : Int)
  | timestamp (millis : Int)
  | boolean (b : Bool)
  deriving DecidableEq, Repr

namespace Value

/-- A date as a value. -/
def ofDate (d : Date) : Value := .date d.dayNumber

/-- A time as a value. What it has below a millisecond is lost. -/
def ofTimestamp (t : Timestamp) : Value := .timestamp t.unixMillis

end Value

/-- What a row has in a column. -/
inductive Cell where
  | null
  /-- Bytes that are no value of the column's type. -/
  | unreadable
  | value (v : Value)
  deriving DecidableEq, Repr

namespace Cell

/-- The number that bytes denote, the highest one first. -/
def ofBytes (bytes : List UInt8) : Nat := bytes.foldl (fun n b ↦ 256 * n + b.toNat) 0

/-- A cell of a column, from its bytes: a text is UTF-8, a date has four bytes with the start of
1970 in the middle of their range, a timestamp eight with a sign, a boolean one. -/
def read (type : ColumnType) (bytes : List UInt8) : Cell :=
  match type with
  | .text => match Text.Utf8.decode? bytes with
    | some s => .value (.text (String.ofList s))
    | none => .unreadable
  | .date => if bytes.length = 4 then .value (.date (ofBytes bytes - 2147483648)) else .unreadable
  | .timestamp =>
    if bytes.length = 8 then .value (.timestamp (Int.bmod (ofBytes bytes) 18446744073709551616))
    else .unreadable
  | .boolean => if bytes.length = 1 then .value (.boolean (bytes != [0])) else .unreadable

end Cell

/-- A row of cells. -/
abbrev Row : Type := List Cell

/-- A statement with the values for its marks, in order. -/
structure Statement where
  /-- The text, with a mark where a value belongs. -/
  cql : String
  /-- The values for the marks, in order. -/
  values : List Value := []
  deriving DecidableEq, Repr

/-- What a database answers. -/
inductive Answer where
  /-- That the statement was carried out. -/
  | done
  | rows (columns : List ColumnType) (rows : List Row)
  /-- That the statement was not carried out. -/
  | failed (reason : String)
  deriving DecidableEq, Repr

/-- A conversation with a database. -/
structure Session (σ : Type) where
  /-- Shows who is asking, if there are a user and a password to show. The outcome is whether the
  database goes on. -/
  introduce : Option (String × String) → σ → Bool × σ
  /-- Carries out a statement. -/
  run : Statement → σ → Answer × σ

/-! ### Reading rows -/

/-- What reading a cell gives. The error is a reason. -/
abbrev Reading (α : Type) : Type := Except String α

/-- The text in a cell. -/
def readText : Cell → Reading String
  | .value (.text s) => .ok s
  | _ => .error "not a text"

/-- The date in a cell. -/
def readDate : Cell → Reading Date
  | .value (.date day) => match Date.ofDayNumber? day with
    | some d => .ok d
    | none => .error "not a day of the calendar"
  | _ => .error "not a date"

/-- The time in a cell. -/
def readTimestamp : Cell → Reading Timestamp
  | .value (.timestamp millis) => match Timestamp.ofUnixMillis? millis with
    | some t => .ok t
    | none => .error "not a time of the calendar"
  | _ => .error "not a timestamp"

/-- The rows of an answer, if it has rows and their columns are the expected ones. -/
def Answer.rowsOf (columns : List ColumnType) : Answer → Except StoreError (List Row)
  | .rows found list =>
    if found = columns then .ok list else .error (.database "columns of other types")
  | .done => .error (.database "no rows")
  | .failed reason => .error (.database reason)

/-- Whether the rows of an answer say that a conditional statement was carried out: the first cell
of the first row says so. -/
def Answer.applied : Answer → Except StoreError Bool
  | .rows _ [] => .ok false
  | .rows _ (row :: _) =>
    if row.contains .unreadable then .error (.database "unreadable cell")
    else .ok (row.head? = some (.value (.boolean true)))
  | .done => .error (.database "no rows")
  | .failed reason => .error (.database reason)

end ContributionRegistry.Database
