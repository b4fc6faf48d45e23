import LikedYou.Settings.Service

/-!
# Settings of the database

How the database is reached, and how many connections are kept. Connections are opened when they are
needed, so a pool can be made without a database; but the database must have a name, and there must be
room for so many connections.
-/

namespace LikedYou

/-- Settings of the database. -/
structure DatabaseSettings where
  host : String
  port : Nat
  name : String
  user : String
  password : String
  maxConnections : Nat
  timeoutSeconds : Nat
  createSchema : Bool
  deriving DecidableEq, Repr

namespace DatabaseSettings

/-- The settings of the database in an environment. -/
def ofEnvironment (env : Environment) : DatabaseSettings where
  host := env.text "EXPLORE_DB_HOST" "localhost"
  port := env.number "EXPLORE_DB_PORT" 65535 5432
  name := env.text "EXPLORE_DB_NAME" "explore"
  user := env.text "EXPLORE_DB_USER" "postgres"
  password := env.text "EXPLORE_DB_PASSWORD" ""
  maxConnections := env.size "EXPLORE_DB_POOL_SIZE" 16
  timeoutSeconds := env.size "EXPLORE_DB_TIMEOUT" 30
  createSchema := (env.lookup "EXPLORE_DB_RUN_MIGRATIONS").any fun s => s = "true" || s = "1"

/-- The number of connections for which no memory has room. -/
def poolBound : Nat := 0x80000000000000

/-- The number of connections of the pool that is made, with room for all of them. -/
def poolSize (s : DatabaseSettings) : Except Breakdown (Except Api.Error Nat) :=
  if s.name.isEmpty then
    .ok (.error ⟨.databaseError,
      "Failed to create pool: Config: configuration property \"dbname\" not found"⟩)
  else if poolBound ≤ s.maxConnections then .error .noRoom
  else .ok (.ok s.maxConnections)

end DatabaseSettings

end LikedYou
