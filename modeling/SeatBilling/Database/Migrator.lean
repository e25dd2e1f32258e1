import SeatBilling.Database.Session
import SeatBilling.Database.Schema

/-!
# Migrating the database

The migrator brings a database up to the billing schema. Under an advisory lock on the
database it makes sure the table of applied migrations exists, refuses to go on while a
migration is recorded as failed, and checks the recorded migrations against the schema
script: one it does not know, or the script's own record with another checksum, stops it.
A script not yet recorded is run as one statement inside a transaction, together with its
record; its running time is written to the record after the transaction. Last the lock is
released.

A failure of the script itself names its version; any other database failure is a failure of
the migrations as a whole.
-/

namespace SeatBilling.Database

/-- Why a migration failed. -/
inductive MigrateError where
  /-- A statement of the migrator failed. -/
  | execute (error : DbError)
  /-- The script of a migration failed. -/
  | executeMigration (error : DbError) (version : Int)
  /-- A migration is recorded that the migrator does not know. -/
  | versionMissing (version : Int)
  /-- A migration is recorded with another checksum than its script has. -/
  | versionMismatch (version : Int)
  /-- A migration is recorded as failed. -/
  | dirty (version : Int)
  deriving Repr

/-- The text of a migration failure. -/
def MigrateError.message : MigrateError → String
  | .execute error => "while executing migrations: " ++ error.message
  | .executeMigration error version => "while executing migration " ++ toString version ++ ": " ++ error.message
  | .versionMissing version =>
    "migration " ++ toString version ++ " was previously applied but is missing in the resolved migrations"
  | .versionMismatch version => "migration " ++ toString version ++ " was previously applied but has been modified"
  | .dirty version =>
    "migration " ++ toString version ++ " is partially applied; fix and remove row from `_sqlx_migrations` table"

/-- The migration failure with its causes: a failed statement or script is caused by its
database error. -/
def MigrateError.chain (failure : MigrateError) : ErrorChain :=
  match failure with
  | .execute error | .executeMigration error _ => .wrap failure.message error.chain
  | _ => .plain failure.message

namespace Migrator

/-- A step of the migrator. -/
abbrev MigrateM := ExceptT MigrateError Exchange

/-- A session step of the migrator, its database failure made a migration failure by `wrap`. -/
def step {α : Type} (wrap : DbError → MigrateError) (action : Exchange α) : MigrateM α := do
  let outcome : Except DbError α ← monadLift <| tryCatch (Except.ok <$> action) fun
    | .failed error => pure (.error error)
    | .overflow => throw .overflow
  match outcome with
  | .ok value => pure value
  | .error error => throw (wrap error)

/-- A statement of the migrator. -/
def statement {α : Type} (action : Exchange α) : MigrateM α := step .execute action

def currentDatabaseSql : String := "SELECT current_database()"

def lockSql : String := "SELECT pg_advisory_lock($1)"

def unlockSql : String := "SELECT pg_advisory_unlock($1)"

def createTableSql : String :=
  "\nCREATE TABLE IF NOT EXISTS _sqlx_migrations (\n    version BIGINT PRIMARY KEY,\n" ++
    "    description TEXT NOT NULL,\n    installed_on TIMESTAMPTZ NOT NULL DEFAULT now(),\n" ++
    "    success BOOLEAN NOT NULL,\n    checksum BYTEA NOT NULL,\n    execution_time BIGINT NOT NULL\n);\n" ++
    "                "

def dirtySql : String := "SELECT version FROM _sqlx_migrations WHERE success = false ORDER BY version LIMIT 1"

def appliedSql : String := "SELECT version, checksum FROM _sqlx_migrations ORDER BY version"

def recordSql : String :=
  "\n    INSERT INTO _sqlx_migrations ( version, description, success, checksum, execution_time )\n" ++
    "    VALUES ( $1, $2, TRUE, $3, -1 )\n        "

def timingSql : String := "\n    UPDATE _sqlx_migrations\n    SET execution_time = $1\n    WHERE version = $2\n                "

/-- The name of the database; asking for it is how the lock's key is found. -/
def currentDatabase : MigrateM String := do
  let row ← statement (fetchOne currentDatabaseSql)
  statement (readField (row.required (.position 0) .text Value.text?))

/-- Takes the advisory lock on the database. -/
def lock : MigrateM Unit := do
  let _ ← currentDatabase
  let _ ← statement (execute lockSql)

/-- Releases the advisory lock on the database. -/
def unlock : MigrateM Unit := do
  let _ ← currentDatabase
  let _ ← statement (execute unlockSql)

/-- The recorded migrations: each version with its checksum. -/
def applied : MigrateM (List (Int × List UInt8)) := do
  let rows ← statement (fetchAll appliedSql)
  rows.mapM fun row => do
    let version ← statement (readField (row.required (.position 0) .int8 Value.int8?))
    let checksum ← statement (readField (row.required (.position 1) .bytea Value.bytea?))
    return (version, checksum)

/-- Runs the schema script and records it, in one transaction; a failure inside leaves the
transaction to be rolled back. Then writes its running time to the record. -/
def apply : MigrateM Unit := do
  statement beginTransaction
  tryCatch
    (do
      let _ ← step (.executeMigration · Schema.version) (runPlain Schema.script)
      let _ ← statement (execute recordSql)
      statement commitTransaction)
    fun failure => do
      monadLift abandonTransaction
      throw failure
  let _ ← statement (execute timingSql)

/-- Brings the database up to the schema. -/
def run : MigrateM Unit := do
  lock
  let _ ← statement (runPlain createTableSql)
  match ← statement (fetchOptional dirtySql) with
  | some row => throw (.dirty (← statement (readField (row.required (.position 0) .int8 Value.int8?))))
  | none => pure ()
  let recorded ← applied
  match recorded.find? (·.1 != Schema.version) with
  | some (version, _) => throw (.versionMissing version)
  | none => pure ()
  match recorded.getLast? with
  | some (_, checksum) => if checksum != Schema.checksum then throw (.versionMismatch Schema.version)
  | none => apply
  unlock

end Migrator

end SeatBilling.Database
