import SeatBilling.Programs.Host
import SeatBilling.Database.Migrator

/-!
# The API server

The API server reads its settings from the environment, opens a pool on the database, runs
the migrations when `RUN_MIGRATIONS` asks for them (over a pool of its own), builds the
billing core, allows cross-origin requests from the configured origins that are valid header
values, and serves on `BIND_ADDRESS` until it is killed. It has no way to shut down: an
interrupt kills it.

Every failure on the way stops it with the error and its causes. Its log filter defaults to
information and above, with debug records of the server and the billing core.
-/

namespace SeatBilling.Programs.Server

/-- The part of the program the server logs as. -/
def target : String := "hrcore_api"

/-- The part of the server that sets up its state. -/
def stateTarget : String := "hrcore_api::state"

/-- The part of the shared code that runs the migrations. -/
def databaseTarget : String := "hrcore_shared::db"

/-- The server's version. -/
def version : String := "0.4.0"

/-- The log filter the server uses when `RUST_LOG` holds none. -/
def defaultFilter : String := "info,hrcore_api=debug,hrcore_billing=debug"

/-- Whether a byte may stand in a header value: a visible character, a space, a tab, or a
byte above the ASCII range. -/
def headerByte (byte : UInt8) : Bool := (byte ≥ 32 && byte != 127) || byte == 9

/-- Whether a text is a valid header value. -/
def isHeaderValue (text : String) : Bool := text.toUTF8.toList.all headerByte

/-- A byte of a header value as the log shows it: visible characters as they are, a double
quote escaped, any other byte as a hexadecimal escape. -/
def headerByteText (byte : UInt8) : String :=
  if byte == 34 then "\\\""
  else if (byte ≥ 32 && byte < 127) || byte == 9 then (Char.ofNat byte.toNat).toString
  else "\\x" ++ String.ofList (Nat.toDigits 16 byte.toNat)

/-- A header value as the log shows it, in double quotes. -/
def headerValueText (text : String) : String :=
  "\"" ++ String.join (text.toUTF8.toList.map headerByteText) ++ "\""

/-- The allowed origins as the log shows them: a bracketed list. -/
def originsText (origins : List String) : String :=
  "[" ++ ", ".intercalate (origins.map headerValueText) ++ "]"

/-- Brings the database up to the schema, over a connection of its own. -/
def migrate : ProgramM Unit := do
  log .info databaseTarget "Running database migrations" []
  let machine ← get
  let (result, link) := Database.Migrator.run.run.run.run ⟨machine.server, none⟩
  set { machine with server := link.server }
  match result with
  | .ok (.ok ()) => log .info databaseTarget "Database migrations complete" []
  | .ok (.error failure) => fail failure.chain
  | .error _ => throw (.panic "arithmetic overflow")

/-- The whole hours of a span, rounded toward zero. -/
def wholeHours (span : Time.Span) : Int := span.seconds.tdiv 3600

/-- The whole days of a span, rounded toward zero. -/
def wholeDays (span : Time.Span) : Int := span.seconds.tdiv 86400

/-- The server's run up to serving. -/
def main (host : Host) (env : Environment) : ProgramM OnInterrupt := do
  log .info target ("Starting HRCore API Server v" ++ version) []
  let config ← match ServerConfig.fromEnvironment env with
    | .ok config => pure config
    | .error chain => fail chain
  log .info target "Configuration loaded" []
  log .info target "Connecting to database..." []
  connectPool host config.databaseUrl
  log .info target "Database connection established" []
  if config.runMigrations then
    log .info target "Running database migrations..." []
    connectPool host config.databaseUrl
    migrate
    log .info target "Database migrations applied" []
  else
    log .info target "Database migrations skipped (RUN_MIGRATIONS not set)" []
  let billing ← coreConfig env
  log .info stateTarget "Billing service initialized"
    [("invoice_ttl_hours", toString (wholeHours billing.invoiceTtl)),
      ("grace_period_days", toString (wholeDays billing.gracePeriod))]
  let origins := config.allowedOrigins.filter isHeaderValue
  log .info target ("CORS configured with " ++ toString origins.length ++ " allowed origins")
    [("allowed_origins", originsText origins)]
  let some address := Net.SocketAddress.parse? config.bindAddress | fail (.plain Net.invalidSyntax)
  log .info target ("Starting server on " ++ address.text) []
  bind host address
  return .dies

end SeatBilling.Programs.Server
