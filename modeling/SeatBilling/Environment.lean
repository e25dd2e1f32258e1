import SeatBilling.Config
import SeatBilling.Failure
import SeatBilling.Text.Blank
import SeatBilling.Text.Decimal
import SeatBilling.ErrorChain

/-!
# Settings from the environment

The billing core and the API server read their settings from environment variables.

For the billing core the callback token (not blank) and the provider's secret key are
required; the provider's address defaults to the production one. Day and hour counts are
64-bit integers and the sweep's per-record limit an unsigned one; each may have blanks
around it, and a bad one is a configuration failure that quotes it. A count whose span
overflows 64 bits of seconds stops the computation.

For the API server the database address and a token secret of at least 32 bytes are
required; the token lifetime must be a 64-bit integer as it stands. Migrations run when the
variable says `true` or `1`, and the allowed origins are a comma-separated list whose blank
items are dropped.
-/

namespace SeatBilling

open SeatBilling.Time SeatBilling.Text

/-- Environment variables: names and values, each name once. -/
abbrev Environment := List (String × String)

/-- The value of a variable, if it is set. -/
def Environment.get? (env : Environment) (name : String) : Option String :=
  (env.find? (·.1 == name)).map Prod.snd

/-- The address of the payment provider when none is set. -/
def defaultProviderUrl : String := "https://api.xendit.co"

/-- A count the billing core reads: the variable's number, its default when unset, or a
configuration failure quoting the bad value. -/
def countFrom (env : Environment) (name : String) (read : String → Except NumberError Int)
    (default : Int) : Except Halt Int :=
  match env.get? name with
  | none => .ok default
  | some raw =>
    match read (trimBlank raw) with
    | .ok count => .ok count
    | .error _ => .error (.failed (.config (name ++ " has an invalid value '" ++ raw ++ "'")))

/-- A span, or an overflow. -/
def spanOrOverflow : Option Span → Except Halt Span
  | some span => .ok span
  | none => .error .overflow

/-- The billing core's settings from the environment. -/
def Config.fromEnvironment (env : Environment) : Except Halt Config := do
  let some callbackToken := env.get? "PAYMENT_CALLBACK_TOKEN"
    | throw (.failed (.config "PAYMENT_CALLBACK_TOKEN not set"))
  if (trimBlank callbackToken).isEmpty then
    throw (.failed (.config "PAYMENT_CALLBACK_TOKEN must not be empty"))
  let some secretKey := env.get? "PAYMENT_PROVIDER_SECRET_KEY"
    | throw (.failed (.config "PAYMENT_PROVIDER_SECRET_KEY not set"))
  let providerUrl := (env.get? "PAYMENT_PROVIDER_URL").getD defaultProviderUrl
  let period ← spanOrOverflow (Span.ofDays? (← countFrom env "BILLING_PERIOD_DAYS" readInt64 30))
  let trial ← spanOrOverflow (Span.ofDays? (← countFrom env "BILLING_TRIAL_DAYS" readInt64 14))
  let grace ← spanOrOverflow (Span.ofDays? (← countFrom env "BILLING_GRACE_PERIOD_DAYS" readInt64 7))
  let ttl ← spanOrOverflow (Span.ofHours? (← countFrom env "INVOICE_TTL_HOURS" readInt64 24))
  let recordTimeout ← countFrom env "SWEEP_RECORD_TIMEOUT_SECS" readUInt64 10
  return {
    callbackToken := callbackToken, providerUrl := providerUrl, providerSecretKey := secretKey,
    successRedirectUrl := env.get? "INVOICE_SUCCESS_REDIRECT_URL", period := period, trial := trial,
    gracePeriod := grace, invoiceTtl := ttl, recordTimeout := recordTimeout.toNat }

/-- The settings of the API server. -/
structure ServerConfig where
  databaseUrl : String
  bindAddress : String
  jwtSecret : String
  jwtExpiryHours : Int
  runMigrations : Bool
  allowedOrigins : List String
  deriving DecidableEq, Repr

/-- The origins a comma-separated list names, each trimmed, blank ones dropped. -/
def originsOf (raw : String) : List String :=
  ((raw.splitOn ",").map trimBlank).filter (!·.isEmpty)

/-- The origins allowed when none are set. -/
def defaultOrigins : String := "http://localhost:3000,http://127.0.0.1:3000"

/-- Why a variable a program needs is missing. -/
def unsetVariable (message : String) : ErrorChain := ⟨message, ["environment variable not found"]⟩

/-- The API server's settings from the environment, or why they are missing. -/
def ServerConfig.fromEnvironment (env : Environment) : Except ErrorChain ServerConfig := do
  let some databaseUrl := env.get? "DATABASE_URL" | throw (unsetVariable "DATABASE_URL not set")
  let some jwtSecret := env.get? "JWT_SECRET" | throw (unsetVariable "JWT_SECRET not set")
  if jwtSecret.utf8ByteSize < 32 then throw (.plain "JWT_SECRET must be at least 32 characters long")
  let jwtExpiryHours ← match env.get? "JWT_EXPIRY_HOURS" with
    | none => pure 24
    | some raw =>
      match readInt64 raw with
      | .ok hours => pure hours
      | .error problem =>
        throw ⟨"JWT_EXPIRY_HOURS has an invalid value '" ++ raw ++ "'", [problem.message]⟩
  return {
    databaseUrl := databaseUrl, bindAddress := (env.get? "BIND_ADDRESS").getD "0.0.0.0:8080",
    jwtSecret := jwtSecret, jwtExpiryHours := jwtExpiryHours,
    runMigrations := (env.get? "RUN_MIGRATIONS").any (fun value => value == "true" || value == "1"),
    allowedOrigins := originsOf ((env.get? "ALLOWED_ORIGINS").getD defaultOrigins) }

end SeatBilling
