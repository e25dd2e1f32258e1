import SeatBilling.Console.Commands.Environment
import SeatBilling.Console.Setup
import SeatBilling.Database.Migrator
import SeatBilling.Catalog.Queries
import SeatBilling.Access.Guard

/-!
# Commands on the database server

`create_pool`, `run_migrations` and `service_from_env` each open their own pool on the
scripted database server; they share its rules, and what they use of them, with the rest of
the script, but not the core's connection.

* `pg_rules` replaces the server's script.
* `create_pool` opens a pool and closes it again. Opening it sends no statement.
* `run_migrations` brings the database up to the billing schema.
* `service_from_env` builds a billing core from the environment over a fresh pool, with the
  wall clock and the provider the configuration names, then lists the active plans and asks
  whether a company can add an employee.
-/

namespace SeatBilling.Console

open SeatBilling.Documents

/-- Checks that a command names the scripted server in `database` (the default, `pg`). -/
def requireServer (command : Json) : Step Unit := do
  match ← need (text? command "database") with
  | none | some "pg" => pure ()
  | some _ => throw "database must be pg"

/-- `pg_rules {rules?}`: replaces the database server's script with `rules`, templated (none
when absent), its uses counted afresh. -/
def pgRulesCommand (command : Json) : Step Answer := do
  let rules ← match present? command "rules" with
    | none => pure []
    | some rules =>
      match ← rulesOf rules with
      | some rules => pure rules
      | none => throw "bad pg_rules"
  modify fun console => { console with world := { console.world with server := ⟨rules⟩ } }
  return .ok .null

/-- `create_pool {database?}`. -/
def createPoolCommand (command : Json) : Step Answer := do
  requireServer command
  return .ok (.bool true)

/-- `run_migrations {database?}`. -/
def runMigrationsCommand (command : Json) : Step Answer := do
  requireServer command
  let console ← get
  let (result, link) := (Database.Migrator.run.run.run).run ⟨console.world.server, none⟩
  set { console with world := { console.world with server := link.server } }
  match result with
  | .ok (.ok ()) => return .ok (.bool true)
  | .ok (.error failure) => return .raised "MigrateError" failure.message []
  | .error _ => return .panic

/-- An outcome of the billing core as a document: its value, or its failure. -/
def outcomeJson {α : Type} (write : α → Json) : Except Failure α → Json
  | .ok value => write value
  | .error failure => Answer.toJson (.failed failure)

/-- `service_from_env {env, company, database?}`. -/
def serviceFromEnvCommand (command : Json) : Step Answer := do
  requireServer command
  let env ← environmentOf command
  let company ← companyOf command
  match Config.fromEnvironment env with
  | .error (.failed failure) => return .failed failure
  | .error _ => return .panic
  | .ok config =>
    let console ← get
    let world : World :=
      { config := config, store := Store.empty, backend := .database none, server := console.world.server,
        headcount := [], provider := Calls.configuredProvider config,
        faults := [], clock := wallClock, serial := console.world.serial, timeLeft := none,
        logs := [] }
    let survey : BillingM Json := do
      let plans ← attempt Catalog.listActivePlans
      let allowed ← attempt (Access.canAddEmployee company)
      return .obj [("can_add_employee", outcomeJson Json.bool allowed),
        ("list_active_plans", outcomeJson (fun plans => .arr (plans.map planJson)) plans)]
    let (result, after) := (survey.run).run world
    set { console with world := { console.world with server := after.server, serial := after.serial } }
    match result with
    | .ok json => return .ok json
    | .error (.failed failure) => return .failed failure
    | .error _ => return .panic

end SeatBilling.Console
