import SeatBilling.Database.Row
import SeatBilling.Text.Decimal

/-!
# A client's session with the database server

A client holds at most one open connection. It opens one when it needs one, and loses it when
the server drops it; the next statement opens a new one. A statement with parameters is
prepared on a connection before its first run there: the server describes the columns of its
result once, and every later run on that connection reads its rows under those columns. A
statement without parameters (`BEGIN`, `COMMIT`, `ROLLBACK`, a script of several statements)
is sent as it is, and its rows are not read.

A transaction that ends neither in `COMMIT` nor in `ROLLBACK` is rolled back when its
connection goes back to the pool; if that rollback fails, the pool closes the connection.
Nobody hears of that failure.

A session step is an `Exchange`: it changes the server's rules and the connection, and ends
with a value, a `DbError`, or a value out of the calendar's range (`overflow`), which stops the
whole program.
-/

namespace SeatBilling.Database

/-- An open connection: the statements prepared on it, each with its columns. -/
structure Connection where
  prepared : List (String × List Column)
  deriving Repr

/-- A client and the server it talks to. -/
structure Link where
  server : Server
  connection : Option Connection
  deriving Repr

/-- How a session step can end early. -/
inductive Abort where
  | failed (error : DbError)
  | overflow
  deriving Repr

/-- A step of a session. -/
abbrev Exchange := ExceptT Abort (StateM Link)

/-- What a statement gave: its rows and its command tag. -/
structure Outcome where
  rows : List Row
  tag : String
  deriving Repr

/-- How many rows a statement touched: the number the last word of its tag writes, or 0. -/
def Outcome.rowsAffected (outcome : Outcome) : Nat :=
  let last := (outcome.tag.toList.reverse.takeWhile (· != ' ')).reverse
  match Text.readUInt64 (String.ofList last) with
  | .ok count => count.toNat
  | .error _ => 0

/-- Fails with a database error. -/
def failWith {α : Type} (error : DbError) : Exchange α := throw (.failed error)

/-- The open connection, opening one if there is none. -/
def connect : Exchange Connection := do
  match (← get).connection with
  | some connection => pure connection
  | none =>
    let connection : Connection := ⟨[]⟩
    modify fun link => { link with connection := some connection }
    pure connection

/-- The columns of a statement, preparing it on the open connection before its first run
there. -/
def prepare (sql : String) : Exchange (List Column) := do
  let connection ← connect
  match connection.prepared.lookup sql with
  | some columns => pure columns
  | none =>
    let link ← get
    let columns := link.server.describe sql
    set { link with connection := some ⟨connection.prepared ++ [(sql, columns)]⟩ }
    pure columns

/-- Sends a statement whose rows are read under `columns`, and takes the server's answer. -/
def perform (sql : String) (columns : List Column) : Exchange Outcome := do
  let link ← get
  let (rule, server) := link.server.answer sql
  set { link with server := server }
  match rule with
  | none => pure ⟨[], defaultTag sql 0⟩
  | some rule =>
    if rule.closes then
      modify fun link => { link with connection := none }
      failWith .connectionClosed
    else
      match rule.error with
      | some error => failWith (.server error)
      | none =>
        let rows := rule.rows.map (Row.ofJson columns)
        pure ⟨rows, rule.tag.getD (defaultTag sql rows.length)⟩

/-- Runs a statement with parameters. -/
def run (sql : String) : Exchange Outcome := do
  let columns ← prepare sql
  perform sql columns

/-- Runs a statement without parameters. -/
def runPlain (sql : String) : Exchange Outcome := do
  let _ ← connect
  perform sql []

/-- The rows of a statement with parameters. -/
def fetchAll (sql : String) : Exchange (List Row) := do
  return (← run sql).rows

/-- The first row of a statement with parameters, if it gave one. -/
def fetchOptional (sql : String) : Exchange (Option Row) := do
  return (← run sql).rows.head?

/-- The first row of a statement with parameters, which must give one. -/
def fetchOne (sql : String) : Exchange Row := do
  match (← run sql).rows with
  | row :: _ => pure row
  | [] => failWith .rowNotFound

/-- How many rows a statement with parameters touched. -/
def execute (sql : String) : Exchange Nat := do
  return (← run sql).rowsAffected

/-- Reads a field of a row. -/
def readField {α : Type} (reading : Except DbError α) : Exchange α :=
  match reading with
  | .ok value => pure value
  | .error error => failWith error

/-- Opens a transaction. -/
def beginTransaction : Exchange Unit := do
  let _ ← runPlain "BEGIN"

/-- Commits the open transaction. -/
def commitTransaction : Exchange Unit := do
  let _ ← runPlain "COMMIT"

/-- Rolls the open transaction back. -/
def rollbackTransaction : Exchange Unit := do
  let _ ← runPlain "ROLLBACK"

/-- What happens to a transaction that was left open: it is rolled back when its connection
goes back to the pool, and the pool closes the connection if that fails. -/
def abandonTransaction : Exchange Unit := do
  if (← get).connection.isSome then
    tryCatch rollbackTransaction fun _ =>
      modify fun link => { link with connection := none }

end SeatBilling.Database
