import LikedYou.Api.Error
import LikedYou.Sql.Database
import LikedYou.Sql.Keyset
import LikedYou.Store.Basic

/-!
# Decisions in a database

The relation is kept by a database, which is asked over a pooled connection. The connection is opened
when it is first needed, used again, and replaced when it was lost.

What a database says about a failure is not passed on: a fault either tells that no connection could
be had, or that the operation failed.
-/

namespace LikedYou

/-- The connection of a pool. -/
inductive Pool where
  | idle
  | connected
  | closed
  deriving DecidableEq, Repr

/-- Why a request to a database has no answer. -/
inductive AskFault where
  | poolClosed
  /-- No connection was accepted. -/
  | refused (error : Sql.Error)
  | failed (error : Sql.Error)
  /-- There is an answer, but it cannot be read. -/
  | unreadable (fault : Sql.RowFault)
  deriving DecidableEq, Repr

/-- The fault that a store reports. -/
def AskFault.toStorage : AskFault → StorageFault
  | poolClosed | refused _ => .unavailable "failed to acquire database connection"
  | failed _ | unreadable _ => .query "database operation failed"

/-- The error that is reported where the schema is created. -/
def AskFault.toError : AskFault → Api.Error
  | poolClosed => ⟨.serviceUnavailable, "Database connection pool is closed"⟩
  | refused _ => ⟨.databaseError, "Failed to acquire database connection"⟩
  | failed _ | unreadable _ => ⟨.databaseError, "Database operation failed"⟩

/-- A store in a database. -/
structure Postgres (δ : Type) where
  database : δ
  pool : Pool

namespace Postgres

variable {δ : Type} [Sql.Database δ]

/-- Run a request over the open connection. -/
def run (request : Sql.Request) (s : Postgres δ) : Except AskFault Sql.Table × Postgres δ :=
  match Sql.Database.run request s.database with
  | (.answered t, database) => (.ok t, ⟨database, .connected⟩)
  | (.failed e, database) => (.error (.failed e), ⟨database, .connected⟩)
  | (.lost e, database) => (.error (.failed e), ⟨database, .idle⟩)

/-- Run a request, over a new connection if there is none. -/
def ask (request : Sql.Request) (s : Postgres δ) : Except AskFault Sql.Table × Postgres δ :=
  match s.pool with
  | .closed => (.error .poolClosed, s)
  | .connected => s.run request
  | .idle =>
    match Sql.Database.connect s.database with
    | (.error e, database) => (.error (.refused e), ⟨database, .idle⟩)
    | (.ok (), database) => run request ⟨database, .connected⟩

/-- Run a request and read its answer. -/
def query {α : Type} (request : Sql.Request) (read : Sql.Table → Except Sql.RowFault α)
    (s : Postgres δ) : Except StorageFault α × Postgres δ :=
  match s.ask request with
  | (.error f, s) => (.error f.toStorage, s)
  | (.ok t, s) => ((read t).mapError fun f => (AskFault.unreadable f).toStorage, s)

/-! ## Reading answers -/

/-- Likers, one a row. -/
def likersOf (t : Sql.Table) : Except Sql.RowFault (List Liker) :=
  t.rows.mapM fun row => do
    let actor ← t.text row 0
    let timestamp ← t.bigint row 1
    return ⟨actor, timestamp⟩

/-- A number, which is shown as zero if it is negative. -/
def countOf (t : Sql.Table) : Except Sql.RowFault UInt64 := do
  let row ← t.onlyRow
  let n ← t.bigint row 0
  return UInt64.ofNat n.toInt.toNat

/-- Nothing: there are no rows, which could not be read. -/
def nothingOf (t : Sql.Table) : Except Sql.RowFault Unit :=
  if t.rows.isEmpty then .ok () else .error .unannounced

/-- A truth value, which is false if it is absent. -/
def flagOf (t : Sql.Table) : Except Sql.RowFault Bool := do
  let row ← t.onlyRow
  let flag ← t.flag row 0
  return flag.getD false

/-! ## Operations -/

instance : DecisionStore (Postgres δ) where
  likers listing recipient bounds s :=
    s.query (.prepared (Sql.keyset listing recipient bounds)) fun t =>
      (likersOf t).map fun rows => Page.assemble rows bounds
  count recipient s := s.query (.prepared (Sql.count recipient)) countOf
  record actor recipient liked _ s :=
    let (done, s) := s.query (.prepared (Sql.record actor recipient liked)) fun _ => .ok ()
    (done.mapError .storage, s)
  areMutual actor recipient s := s.query (.prepared (Sql.areMutual actor recipient)) flagOf
  check s := s.query (.batch Sql.checkText) nothingOf

/-- Create the table and its index where they are missing. What is answered is not looked at. -/
def createSchema (s : Postgres δ) : Except Api.Error Unit × Postgres δ :=
  match s.ask (.batch Sql.createText) with
  | (.ok _, s) => (.ok (), s)
  | (.error f, s) => (.error f.toError, s)

/-- Close the pool, for good. -/
def close (s : Postgres δ) : Postgres δ := { s with pool := .closed }

end Postgres

end LikedYou
