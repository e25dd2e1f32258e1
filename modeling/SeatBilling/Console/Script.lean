import SeatBilling.Console.Setup
import SeatBilling.Console.Commands.Billing
import SeatBilling.Console.Commands.Direct
import SeatBilling.Console.Commands.Api
import SeatBilling.Console.Commands.Http
import SeatBilling.Console.Commands.Environment
import SeatBilling.Console.Commands.Database
import SeatBilling.Console.Commands.Programs
import SeatBilling.Json.Read

/-!
# Running a script

A script is one JSON object: its settings and its commands (`ops`). The console starts from
the settings, then carries out the commands in order. Each answer is written with its keys in
order and its identifiers as labels, after the records the command made have been
discovered. An answer that reports an overflow ends the script.
-/

namespace SeatBilling.Console

/-- The command named `name`. -/
def dispatch (name : String) (command : Json) : Step Answer :=
  match name with
  | "advance" => advanceCommand command
  | "set_time" => setTimeCommand command
  | "now" => nowCommand
  | "set_employees" => setEmployeesCommand command
  | "provider_fail" => providerFailCommand command
  | "provider_recover" => providerRecoverCommand
  | "provider_requests" => providerRequestsCommand
  | "http_requests" => httpRequestsCommand
  | "fault" => faultCommand command
  | "clear_faults" => clearFaultsCommand
  | "seed_plan" => seedPlanCommand command
  | "seed_feature" => seedFeatureCommand command
  | "seed_subscription" => seedSubscriptionCommand command
  | "seed_invoice" => seedInvoiceCommand command
  | "start_trial" => startTrialCommand command
  | "checkout" => checkoutCommand command
  | "upgrade" => upgradeCommand command
  | "downgrade" => downgradeCommand command
  | "change_seats" => changeSeatsCommand command
  | "cancel" => cancelCommand command
  | "cancel_scheduled_change" => cancelScheduledChangeCommand command
  | "get_subscription" => getSubscriptionCommand command
  | "get_my_subscription" => getMySubscriptionCommand command
  | "settle" => settleCommand command
  | "commit_pending" => commitPendingCommand command
  | "list_due_pending" => listDuePendingCommand
  | "expire_lapsed" => expireLapsedCommand
  | "create_invoice" => createInvoiceCommand command
  | "mark_expired" => markExpiredCommand command
  | "mark_cancelled" => markCancelledCommand command
  | "cancel_pending_invoice" => cancelPendingInvoiceCommand command
  | "get_invoices" => getInvoicesCommand command
  | "get_invoice" => getInvoiceCommand command
  | "find_invoice" => findInvoiceCommand command
  | "find_pending" => findPendingCommand command
  | "find_by_provider_id" => findByProviderIdCommand command
  | "expire_stale_invoices" => expireStaleInvoicesCommand
  | "webhook" => webhookCommand command
  | "verify_token" => verifyTokenCommand command
  | "sweep" => sweepCommand
  | "get_access" => getAccessCommand command
  | "has_feature" => hasFeatureCommand command
  | "can_add_employee" => canAddEmployeeCommand command
  | "require_active" => requireActiveCommand command
  | "require_feature" => requireFeatureCommand command
  | "require_seat_available" => requireSeatAvailableCommand command
  | "list_active_plans" => listActivePlansCommand
  | "list_plans" => listPlansCommand command
  | "get_plan" => getPlanCommand command
  | "get_purchasable_plan" => getPurchasablePlanCommand command
  | "get_features" => getFeaturesCommand command
  | "catalog_has_feature" => catalogHasFeatureCommand command
  | "ensure_feature" => ensureFeatureCommand command
  | "check_all" => checkAllCommand
  | "check" => checkCommand command
  | "available_checks" => availableChecksCommand
  | "list_events" => listEventsCommand command
  | "price_for" => priceForCommand command
  | "tier_cmp" => tierCmpCommand command
  | "plan_includes" => planIncludesCommand command
  | "paid_effect" => paidEffectCommand command
  | "grants_access" => grantsAccessCommand command
  | "snapshot_check" => snapshotCheckCommand command
  | "snapshot_from_subscription" => snapshotFromSubscriptionCommand command
  | "parse_enum" => parseEnumCommand command
  | "event_type_parse" => eventTypeParseCommand command
  | "actor_parse" => actorParseCommand command
  | "billing_error" => billingErrorCommand command
  | "severity_display" => severityDisplayCommand command
  | "api_error" => apiErrorCommand command
  | "auth_error" => authErrorCommand command
  | "http" => httpCommand command
  | "billing_config_from_env" => billingConfigFromEnvCommand command
  | "api_config_from_env" => apiConfigFromEnvCommand command
  | "pg_rules" => pgRulesCommand command
  | "create_pool" => createPoolCommand command
  | "run_migrations" => runMigrationsCommand command
  | "service_from_env" => serviceFromEnvCommand command
  | "run_binary" => runBinaryCommand command
  | other => throw ("unknown op '" ++ other ++ "'")

/-- Carries out one command; a refused command leaves the console as it was, but for the
labels it bound before it was refused. -/
def runCommand (command : Json) : ConsoleM Answer := do
  let saved ← get
  let carried : Step Answer := do
    let name ← need (text command "op")
    dispatch name command
  match ← carried.run with
  | .ok answer => return answer
  | .error message =>
    let now ← get
    set { saved with labels := now.labels, world := { saved.world with serial := now.world.serial } }
    return .refused message

/-- Writes an answer: keys in order, identifiers as labels. -/
def writeAnswer (answer : Answer) : ConsoleM Json := do
  let json := answer.toJson.sortKeys
  let (written, labels) := (← get).labels.relabel json
  changeLabels fun _ => labels
  return written

/-- Whether an answer ends the script. -/
def Answer.isPanic : Answer → Bool
  | .panic => true
  | _ => false

/-- Carries out commands in order, up to the first overflow, and gives their answers. -/
def runCommands : List Json → ConsoleM (List Json)
  | [] => return []
  | command :: rest => do
    let answer ← runCommand command
    discover
    let written ← writeAnswer answer
    if answer.isPanic then return [written]
    return written :: (← runCommands rest)

/-- The answer to a whole script. -/
def runScript (script : Json) : Json :=
  match start script with
  | .error (.refused message) => Answer.toJson (.refused message)
  | .error .overflow => Answer.toJson .panic
  | .ok (console, commands) =>
    let (answers, _) := (runCommands commands).run console
    .obj [("results", .arr answers)]

/-- The answer to one line of input, a script as JSON text. -/
def runLine (line : String) : String :=
  match Json.read line with
  | .ok script => (runScript script).render
  | .error problem => (Answer.toJson (.refused ("bad json: " ++ problem.message))).render

end SeatBilling.Console
