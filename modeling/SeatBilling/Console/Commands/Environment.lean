import SeatBilling.Console.Step
import SeatBilling.Environment

/-!
# Settings from an environment

`billing_config_from_env` and `api_config_from_env` read the settings of the billing core and
of the API server from the environment a command gives: an object of names and values, where
a string (templated, also with the addresses of the scripted servers) sets a variable and
`null` leaves it unset.
-/

namespace SeatBilling.Console

/-- Applies the variables of an `env` object in order: a name must be non-empty and hold no
`=` or NUL, a value must be a string without NUL (expanded with the extra templates
`templates` gives), or `null`. -/
def applyEnvironment (templates : String → Option String) (env : Environment) :
    List (String × Json) → Step Environment
  | [] => return env
  | (name, value) :: rest => do
    if name.isEmpty || name.toList.any (fun char => char == '=' || char == '\x00') then
      throw "bad env name"
    match value with
    | .null => applyEnvironment templates (env.filter (·.1 != name)) rest
    | .str text =>
      if text.toList.contains '\x00' then throw "bad env value"
      let text ← expandWith templates text
      applyEnvironment templates (env.filter (·.1 != name) ++ [(name, text)]) rest
    | _ => throw "env values must be strings or null"

/-- The environment a command gives in `env`. -/
def environmentOf (command : Json) : Step Environment := do
  match command.field? "env" with
  | some (.obj members) => applyEnvironment serverTemplate [] members
  | _ => throw "env must be an object"

/-- The billing core's settings as a document, spans in seconds. -/
def configJson (config : Config) : Json :=
  .obj [("callback_token", .str config.callbackToken),
    ("grace_period_seconds", .int config.gracePeriod.seconds),
    ("invoice_ttl_seconds", .int config.invoiceTtl.seconds), ("period_seconds", .int config.period.seconds),
    ("provider_secret_key", .str config.providerSecretKey), ("provider_url", .str config.providerUrl),
    ("record_timeout_seconds", .int config.recordTimeout),
    ("success_redirect_url", Json.ofOptStr config.successRedirectUrl),
    ("trial_seconds", .int config.trial.seconds)]

/-- The API server's settings as a document. -/
def serverConfigJson (config : ServerConfig) : Json :=
  .obj [("allowed_origins", .arr (config.allowedOrigins.map Json.str)),
    ("bind_address", .str config.bindAddress), ("database_url", .str config.databaseUrl),
    ("jwt_expiry_hours", .int config.jwtExpiryHours), ("jwt_secret", .str config.jwtSecret),
    ("run_migrations", .bool config.runMigrations)]

/-- `billing_config_from_env {env}`. -/
def billingConfigFromEnvCommand (command : Json) : Step Answer := do
  let env ← environmentOf command
  match Config.fromEnvironment env with
  | .ok config => return .ok (configJson config)
  | .error (.failed failure) => return .failed failure
  | .error _ => return .panic

/-- `api_config_from_env {env}`. -/
def apiConfigFromEnvCommand (command : Json) : Step Answer := do
  let env ← environmentOf command
  match ServerConfig.fromEnvironment env with
  | .ok config => return .ok (serverConfigJson config)
  | .error chain => return .raised "ConfigError" chain.inline []

end SeatBilling.Console
