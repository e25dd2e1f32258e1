import SeatBilling.Console.Records

/-!
# Starting a console

A script starts with its settings: the billing configuration (`config`), the starting time
(`start`, by default 2026-01-01T00:00:00Z), the plans (`plans`, by default the three standard
ones), extra features (`features`), how access tokens are signed (`api`), where the core
keeps its records (`backend`) and the database server's script (`pg_rules`). Seeding a plan
registers its features where their codes are new; an extra feature replaces the one with its
code.

Settings are read in this order, the first bad one refusing the whole script with a fixed
message: the commands, the configuration, the start, the plans, the features, the backend, the
provider, the token settings and the database script. A configuration span that leaves its
word stops the script as an overflow as soon as it is read.
-/

namespace SeatBilling.Console

open SeatBilling.Time

/-- Why a script could not start. -/
inductive SetupError where
  | refused (message : String)
  | overflow
  deriving Repr

/-- The setting's value, if the script gives it (`null` counts as not given). -/
def setting? (script : Json) (key : String) : Option Json := present? script key

/-- A whole-number setting of the configuration, or its default. -/
def countSetting (config : Json) (key : String) (default : Int) : Except SetupError Int :=
  match present? config key with
  | none => .ok default
  | some value => (asInt64 key value).mapError .refused

/-- A span setting of the configuration, read and made at once: `unit` makes the span of a
count, and a span that leaves its word stops the script before later settings are read. -/
def spanSetting (config : Json) (key : String) (default : Int) (unit : Int → Option Span) :
    Except SetupError Span := do
  match unit (← countSetting config key default) with
  | some span => pure span
  | none => throw .overflow

/-- The billing configuration a script sets: the callback token (a string; `null` is not one),
then the spans in order: period, trial, grace and invoice lifetime. -/
def readConfig (script : Json) : Except SetupError Config := do
  let config := (setting? script "config").getD (.obj [])
  let token ← match config.field? "callback_token" with
    | none => pure "test-callback-token"
    | some (.str token) => pure token
    | some _ => throw (.refused "callback_token must be a string")
  let period ← spanSetting config "period_days" 30 Span.ofDays?
  let trial ← spanSetting config "trial_days" 14 Span.ofDays?
  let grace ← spanSetting config "grace_days" 7 Span.ofDays?
  let ttl ← spanSetting config "invoice_ttl_hours" 24 Span.ofHours?
  pure { Config.standard token with period := period, trial := trial, gracePeriod := grace, invoiceTtl := ttl }

/-- The starting time a script sets. -/
def readStart (script : Json) : Except SetupError Moment :=
  match setting? script "start" with
  | none => .ok ⟨1767225600 * nanosPerSecond, 0⟩
  | some value => (asMoment value).mapError .refused

/-- The plans a script sets. -/
def readPlans (script : Json) : Except SetupError (List Plan) :=
  match setting? script "plans" with
  | none => .ok standardPlans
  | some (.arr items) =>
    match items.mapM decodePlan with
    | some plans => .ok plans
    | none => .error (.refused "bad plans")
  | some _ => .error (.refused "bad plans")

/-- The extra features a script sets. -/
def readFeatures (script : Json) : Except SetupError (List Feature) :=
  match setting? script "features" with
  | none => .ok []
  | some (.arr items) =>
    match items.mapM decodeFeature with
    | some features => .ok features
    | none => .error (.refused "bad features")
  | some _ => .error (.refused "bad features")

/-- The token settings a script sets in `api`: the secret (`jwt_secret`) and the hours a
token lasts (`jwt_expiry_hours`). -/
def readTokenSettings (script : Json) : Except SetupError TokenSettings := do
  let api := (setting? script "api").getD (.obj [])
  let secret ← match present? api "jwt_secret" with
    | none => pure TokenSettings.standard.secret
    | some value => (asText "jwt_secret" value).mapError .refused
  let hours ← countSetting api "jwt_expiry_hours" TokenSettings.standard.expiryHours
  pure ⟨secret, hours⟩

/-- A text setting of `settings`, or its default. -/
def textSetting (settings : Json) (key default : String) : Except SetupError String :=
  match present? settings key with
  | none => .ok default
  | some value => (asText key value).mapError .refused

/-- The hosted-invoice client of a script that puts the payment provider behind HTTP
(`provider`): it posts to the stand-in's address with the `path_prefix` (trailing slashes
dropped) and `/v2/invoices`, with the `secret_key` (by default `xnd_test`) and the
`success_redirect_url`, if one is given. Both must be strings when given. -/
def readHttpProvider (script : Json) : Except SetupError (Option Provider.HttpClient) := do
  match setting? script "provider" with
  | some (.obj members) =>
    let provider := Json.obj members
    let prefix_ ← textSetting provider "path_prefix" ""
    let secretKey ← textSetting provider "secret_key" "xnd_test"
    let redirect ← match present? provider "success_redirect_url" with
      | none => pure none
      | some value => some <$> (asText "success_redirect_url" value).mapError .refused
    pure (some ⟨Calls.invoicesEndpoint (standInAddress ++ prefix_), secretKey, redirect⟩)
  | _ => pure none

/-- Whether a script keeps the core's records in the database (`backend`): `memory`, the
default, or `postgres`. -/
def readBackend (script : Json) : Except SetupError Backend :=
  match setting? script "backend" with
  | none | some (.str "memory") => .ok .memory
  | some (.str "postgres") => .ok (.database none)
  | some (.str _) => .error (.refused "unknown backend")
  | some _ => .error (.refused "field 'backend' must be a string")

/-- A member of a rule that must be absent or of one form; `none` when it has another. -/
def member? {α : Type} (rule : Json) (key : String) (read : Json → Option α) : Option (Option α) :=
  match present? rule key with
  | none => some none
  | some value => (read value).map some

/-- A text member of a rule's error, or its default. -/
def errorText (error : Json) (key default : String) : Option String :=
  (member? error key Json.getStr?).map (·.getD default)

/-- The server error a rule answers with. -/
def serverErrorOf (error : Json) : Option Database.ServerError := do
  let .obj _ := error | none
  let code ← errorText error "code" "XX000"
  let message ← errorText error "message" "scripted failure"
  let constraint ← member? error "constraint" Json.getStr?
  pure ⟨code, message, constraint⟩

/-- A column of a rule: its name and the name of its type. -/
def columnOf : Json → Option Database.Column
  | .arr [.str name, .str type] => some ⟨name, Database.ColumnType.parse type⟩
  | _ => none

/-- A rule of the database script; a negative `times` never runs out. -/
def ruleOf (rule : Json) : Option Database.Rule := do
  let .obj _ := rule | none
  let pattern ← (present? rule "match").bind Json.getStr?
  let times ← member? rule "times" Json.getInt?
  let error ← member? rule "error" serverErrorOf
  let columns ← member? rule "columns" fun value => value.getArr?.bind (·.mapM columnOf)
  let rows ← member? rule "rows" fun value => value.getArr?.bind (·.mapM Json.getArr?)
  let tag ← member? rule "tag" Json.getStr?
  let closes ← member? rule "close" Json.getBool?
  let remaining := times.bind fun count => if count < 0 then none else some count.toNat
  pure ⟨pattern, remaining, error, columns, rows.getD [], tag, closes.getD false⟩

/-- The rules of a database script, its templates expanded: `none` unless it is a list. A
rule that is not one, for its form or a member's, never applies, and is left out. -/
def rulesOf (rules : Json) : ConsoleM (Option (List Database.Rule)) := do
  let expanded ← expandDocument rules
  return expanded.getArr?.map (·.filterMap ruleOf)

/-- Installs the database script a script gives (`pg_rules`). -/
def installRules (script : Json) (console : State) : Except SetupError State :=
  match setting? script "pg_rules" with
  | none => .ok console
  | some rules =>
    match (rulesOf rules).run console with
    | (some rules, console) => .ok { console with world := { console.world with server := ⟨rules⟩ } }
    | (none, _) => .error (.refused "bad pg_rules")

/-- The commands of a script. -/
def readCommands (script : Json) : Except SetupError (List Json) :=
  match script.field? "ops" with
  | some (.arr commands) => .ok commands
  | _ => .error (.refused "missing 'ops' array")

/-- The console a script starts, and its commands. -/
def start (script : Json) : Except SetupError (State × List Json) := do
  let commands ← readCommands script
  let config ← readConfig script
  let clock ← readStart script
  let plans ← readPlans script
  let features ← readFeatures script
  let backend ← readBackend script
  let http ← readHttpProvider script
  let tokens ← readTokenSettings script
  let store := features.foldl Store.seedFeature (plans.foldl Store.seedPlan Store.empty)
  let config := match http with
    | some client =>
      { config with providerSecretKey := client.secretKey, successRedirectUrl := client.successRedirect }
    | none => config
  let world : World :=
    { config := config, store := store, backend := backend, server := Database.Server.empty,
      headcount := [], provider := ⟨none, [], http.map (·.endpoint)⟩, faults := [], clock := clock,
      serial := 0, timeLeft := none, logs := [] }
  let console ← installRules script ⟨world, Labels.empty, tokens⟩
  pure (console, commands)

end SeatBilling.Console
