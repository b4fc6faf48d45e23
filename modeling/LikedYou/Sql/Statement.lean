/-!
# SQL statements

A statement is a text with numbered places `$1`, `$2`, … and the parameters that are put there. The
schema has one table, with one row for each ordered pair of users.
-/

namespace LikedYou.Sql

/-- A parameter. -/
inductive Param where
  | text (s : String)
  | bigint (n : Int64)
  | flag (b : Bool)
  deriving DecidableEq, Repr

/-- A text with the parameters for its places. -/
structure Statement where
  text : String
  params : List Param
  deriving DecidableEq, Repr

/-- The table of decisions. -/
def decisionsTable : String := "decisions"

/-- Count the likes of a recipient. -/
def countText : String :=
  "SELECT COUNT(*) FROM decisions WHERE recipient_user_id = $1 AND liked_recipient = TRUE"

/-- Record a decision in place of the last one about the same pair. -/
def recordText : String :=
  "INSERT INTO decisions (actor_user_id, recipient_user_id, liked_recipient, created_at) " ++
  "VALUES ($1, $2, $3, NOW()) " ++
  "ON CONFLICT (actor_user_id, recipient_user_id) " ++
  "DO UPDATE SET liked_recipient = EXCLUDED.liked_recipient, created_at = NOW()"

/-- Tell whether two users like each other. The two places are alike. -/
def mutualText : String :=
  "SELECT EXISTS (SELECT 1 FROM decisions " ++
  "WHERE actor_user_id = $1 AND recipient_user_id = $2 AND liked_recipient = TRUE) " ++
  "AND EXISTS (SELECT 1 FROM decisions " ++
  "WHERE actor_user_id = $2 AND recipient_user_id = $1 AND liked_recipient = TRUE)"

/-- Do nothing, to learn whether the database answers. -/
def checkText : String := "SELECT 1"

/-- Create the table and its index where they are missing. -/
def createText : String :=
  "CREATE TABLE IF NOT EXISTS decisions (\n" ++
  "    id BIGSERIAL PRIMARY KEY,\n" ++
  "    actor_user_id TEXT NOT NULL,\n" ++
  "    recipient_user_id TEXT NOT NULL,\n" ++
  "    liked_recipient BOOLEAN NOT NULL,\n" ++
  "    created_at TIMESTAMPTZ NOT NULL DEFAULT NOW(),\n" ++
  "    CONSTRAINT decisions_actor_recipient_key UNIQUE (actor_user_id, recipient_user_id)\n" ++
  ");\n" ++
  "\n" ++
  "CREATE INDEX IF NOT EXISTS decisions_recipient_liked_created_idx\n" ++
  "    ON decisions (recipient_user_id, liked_recipient, created_at DESC);\n"

/-- The number of likes of a recipient. -/
def count (recipient : String) : Statement := ⟨countText, [.text recipient]⟩

/-- A decision to be recorded. -/
def record (actor recipient : String) (liked : Bool) : Statement :=
  ⟨recordText, [.text actor, .text recipient, .flag liked]⟩

/-- Whether two users like each other. -/
def areMutual (actor recipient : String) : Statement :=
  ⟨mutualText, [.text actor, .text recipient]⟩

end LikedYou.Sql
