import LikedYou.Sql.Database

/-!
# Scripted databases

A database that evaluates nothing: it answers as it is told and remembers what it was sent. It stands
in where only the traffic with a database matters.
-/

namespace LikedYou.Sql

/-- When a statement fails. What is not prepared does not fail before it is run. -/
inductive Stage where
  | prepare
  | execute
  deriving DecidableEq, Repr

/-- What a scripted database says about a failure. -/
def scripted : Error := ⟨some "XX000", "scripted"⟩

/-- How a scripted database answers. -/
structure Reply where
  /-- Refuse new connections; old ones are answered. -/
  refuses : Bool
  /-- Close the connection when a statement is run. -/
  hangsUp : Bool
  failsAt : Option Stage
  /-- The answer to what does not fail. -/
  table : Table
  deriving DecidableEq, Repr

/-- To answer everything with a table. -/
def Reply.ofTable (t : Table) : Reply := ⟨false, false, none, t⟩

/-- What a scripted database was sent. -/
inductive Sent where
  | prepared (statement : Statement)
  /-- A text that could not be prepared, so no parameters came. -/
  | unprepared (text : String)
  | batch (text : String)
  deriving DecidableEq, Repr

/-- A scripted database. -/
structure Script where
  reply : Reply
  /-- What was sent so far, the last first. -/
  sent : List Sent
  deriving DecidableEq, Repr

namespace Script

/-- The outcome of a request, and what is remembered of it. -/
def answer (r : Reply) : Request → Outcome × Option Sent
  | .prepared s =>
    if r.failsAt = some .prepare then (.failed scripted, some (.unprepared s.text))
    else if r.hangsUp then (.lost scripted, some (.prepared s))
    else if r.failsAt = some .execute then (.failed scripted, some (.prepared s))
    else (.answered r.table, some (.prepared s))
  | .batch text =>
    if r.hangsUp then (.lost scripted, none)
    else if r.failsAt = some .execute then (.failed scripted, some (.batch text))
    else (.answered r.table, some (.batch text))

instance : Database Script where
  connect d := (if d.reply.refuses then .error scripted else .ok (), d)
  run request d :=
    let (outcome, sent) := answer d.reply request
    (outcome, { d with sent := sent.toList ++ d.sent })

end Script

end LikedYou.Sql
