import LikedYou.Sql.Statement
import LikedYou.Text.Utf8

/-!
# Databases

A database accepts connections or refuses them, and answers what it is asked with a table. It may
fail to answer, and it may close the connection instead; then something is said about the failure.
-/

namespace LikedYou.Sql

/-- The type of a column. -/
inductive ColumnType where
  | text
  | int8
  | int4
  | bool
  deriving DecidableEq, Repr

/-- What stands in a row under a column. -/
inductive Cell where
  | null
  /-- A text, as the bytes that were sent for it. -/
  | text (bytes : Bytes)
  | int (n : Int)
  | flag (b : Bool)
  deriving DecidableEq, Repr

/-- The answer to a statement. -/
structure Table where
  columns : List ColumnType
  rows : List (List Cell)
  deriving DecidableEq, Repr

/-- A table without columns and rows. -/
def Table.empty : Table := ⟨[], []⟩

/-- What a database is asked. -/
inductive Request where
  /-- A statement that is prepared before it is run. -/
  | prepared (statement : Statement)
  /-- Statements that are run as they are. Their columns are not announced, so rows that they answer
  cannot be read. -/
  | batch (text : String)
  deriving DecidableEq, Repr

/-- What is said about a failure, by a database or on the way to it. -/
structure Error where
  /-- The code of the failure, if the database gave one. -/
  code : Option String
  message : String
  deriving DecidableEq, Repr

/-- What comes of a request. -/
inductive Outcome where
  | answered (table : Table)
  | failed (error : Error)
  /-- The connection was closed. -/
  | lost (error : Error)
  deriving DecidableEq, Repr

/-- A database whose state is of type `δ`. -/
class Database (δ : Type) where
  /-- Ask for a connection, which may be refused. -/
  connect (database : δ) : Except Error Unit × δ
  run (request : Request) (database : δ) : Outcome × δ

/-! ## Reading rows

A cell can be read when its column exists and has the type that is asked for. Where a row ends early,
its cells are null.
-/

/-- Why an answer cannot be read. -/
inductive RowFault where
  | noColumn (column : Nat)
  /-- The column has another type than the one that was asked for. -/
  | mismatch (column : Nat) (asked : ColumnType)
  | null (column : Nat)
  /-- The bytes of a text are none. -/
  | malformed (column : Nat)
  /-- There is not just one row. -/
  | rowCount (rows : Nat)
  /-- There are rows, but it was not told which columns they have. -/
  | unannounced
  deriving DecidableEq, Repr

namespace Table

/-- The cell of a row under the `i`-th column, if that has type `type`. -/
def cell (t : Table) (row : List Cell) (i : Nat) (type : ColumnType) : Except RowFault Cell :=
  match t.columns[i]? with
  | none => .error (.noColumn i)
  | some found => if found = type then .ok (row[i]?.getD .null) else .error (.mismatch i type)

/-- Read a text. -/
def text (t : Table) (row : List Cell) (i : Nat) : Except RowFault String :=
  match t.cell row i .text with
  | .error f => .error f
  | .ok (.text bytes) =>
    match Utf8.toString bytes with
    | .ok s => .ok s
    | .error _ => .error (.malformed i)
  | .ok .null => .error (.null i)
  | .ok _ => .error (.mismatch i .text)

/-- Read an integer of 64 bits. -/
def bigint (t : Table) (row : List Cell) (i : Nat) : Except RowFault Int64 :=
  match t.cell row i .int8 with
  | .error f => .error f
  | .ok (.int n) => .ok (Int64.ofInt n)
  | .ok .null => .error (.null i)
  | .ok _ => .error (.mismatch i .int8)

/-- Read a truth value, which may be absent. -/
def flag (t : Table) (row : List Cell) (i : Nat) : Except RowFault (Option Bool) :=
  match t.cell row i .bool with
  | .error f => .error f
  | .ok .null => .ok none
  | .ok (.flag b) => .ok (some b)
  | .ok _ => .error (.mismatch i .bool)

/-- The row of a table that has just one. -/
def onlyRow (t : Table) : Except RowFault (List Cell) :=
  match t.rows with
  | [row] => .ok row
  | rows => .error (.rowCount rows.length)

end Table

end LikedYou.Sql
