import SeatBilling.Console.Commands.Environment
import SeatBilling.Programs.Worker
import SeatBilling.Programs.Server

/-!
# Running the programs

`run_binary {binary, env?, interrupt_on?, requests?}` runs the API server (`api`) or the
worker (`worker`) with only the variables of `env`, strings templated also with
`{{free_port}}`, a port no program listens on. The program talks to the script's database
server.

Requests are given as a non-empty array; anything else gives none. The tokens they carry are
made before the program starts, and they need a variable that names the free port. The rest
of a request is read only when it is sent.

Of what the program writes, only the records of its own parts (targets starting with
`hrcore`) are kept. When a kept line contains `interrupt_on`, the requests are sent and the
program is interrupted: no request reaches a server, so each answers that it could not
connect. A program still running that is never interrupted is killed after a while.

The answer gives the exit code or the signal that ended the program, its kept lines, the lines
of its error stream, the answers to the requests when there were any, and whether it was
killed for running too long.
-/

namespace SeatBilling.Console

/-- The templates of a program's environment: the scripted servers' addresses and
`{{free_port}}`. -/
def programTemplate (body : String) : Option String :=
  if body == "free_port" then some (toString freePort) else serverTemplate body

/-- The host the programs run on. -/
def programHost : Programs.Host := ⟨databaseUrl, [standInPort, databasePort], wallClock⟩

/-- Applies the variables of a program's `env` object in order: a name must be non-empty and
hold no `=` or NUL, and a value must be a string, expanded with the program's templates, that
holds no NUL once expanded. -/
def programVariables (env : Environment) : List (String × Json) → Step Environment
  | [] => return env
  | (name, value) :: rest => do
    if name.isEmpty || name.toList.any (fun char => char == '=' || char == '\x00') then
      throw "bad env name"
    match value with
    | .str text =>
      let text ← expandWith programTemplate text
      if text.toList.contains '\x00' then throw "bad env value"
      programVariables (env.filter (·.1 != name) ++ [(name, text)]) rest
    | _ => throw "env values must be strings"

/-- The variables of `env`, in the order of their names, none when it is absent. -/
def programEnvironment (command : Json) : Step Environment := do
  match present? command "env" with
  | none => return []
  | some (.obj members) => programVariables [] (Json.sortMembers members)
  | some _ => throw "env must be an object"

/-- Whether a value of `env` names the free port, so that requests can reach the program. -/
def namesFreePort (command : Json) : Bool :=
  match present? command "env" with
  | some (.obj members) => members.any fun (_, value) => match value with
    | .str text => Database.occursIn "\x7b\x7bfree_port\x7d\x7d".toList text.toList
    | _ => false
  | _ => false

/-- Makes the token a request's `bearer` asks for: the company's (bound first), the user's
(by default `user`), the role (by default `owner`) and the secret, which is needed. -/
def bearerToken (bearer : Json) : Step Unit := do
  let _ ← companyAt bearer "company"
  let _ ← bindLabel ((← need (text? bearer "user")).getD "user")
  let _ ← need (text? bearer "role")
  let _ ← need (text bearer "secret")

/-- The requests of a command, when it gives a non-empty array of them: their tokens are made
first, and then the program must be reachable at the free port. Anything but an array gives
no requests. -/
def programRequests (command : Json) : Step (Option (List Json)) := do
  match present? command "requests" with
  | some (.arr (first :: rest)) =>
    let requests := first :: rest
    for request in requests do
      if let some bearer := present? request "bearer" then bearerToken bearer
    if !namesFreePort command then throw "requests need BIND_ADDRESS with \x7b\x7bfree_port\x7d\x7d"
    return some requests
  | _ => return none

/-- Expands the templates of a request as it is sent: its path, body and header values. -/
def expandRequest (request : Json) : Step Unit := do
  let _ ← need (text request "path")
  let _ ← expandDocument request
  pure ()

/-- What a request to a program answers: no connection can be made. -/
def unreachable : Json := .obj [("error", .str "connect failed")]

/-- The signal an interrupt sends. -/
def interruptSignal : Int := 2

/-- The signal that kills a program that runs too long. -/
def killSignal : Int := 9

/-- The lines a program writes that an answer keeps: those of its own parts. -/
def keptLines (outcome : Programs.Outcome) : List String :=
  (outcome.records.filter (·.target.startsWith "hrcore")).map Log.Record.line

/-- Whether a run is interrupted: a kept line contains `interruptOn`. -/
def interruptedBy (outcome : Programs.Outcome) (interruptOn : Option String) : Bool :=
  interruptOn.any fun text => (keptLines outcome).any fun line => Database.occursIn text.toList line.toList

/-- The answer of a finished run. -/
def runAnswer (outcome : Programs.Outcome) (interruptOn : Option String) (requests : Option (List Json)) :
    Json :=
  let lines := keptLines outcome
  let interrupted := interruptedBy outcome interruptOn
  let (exitCode, signal, extra, errors, timedOut) : Json × Json × List String × List String × Bool :=
    match outcome.ending with
    | .exits code errors => (.int code, .null, [], errors, false)
    | .waits (.shutDown records) =>
      if interrupted then (.int 0, .null, records.filter (·.target.startsWith "hrcore") |>.map Log.Record.line, [], false)
      else (.null, .int killSignal, [], [], true)
    | .waits .dies =>
      if interrupted then (.null, .int interruptSignal, [], [], false)
      else (.null, .int killSignal, [], [], true)
  let responses := match requests with
    | some requests => [("responses", Json.arr (if interrupted then requests.map fun _ => unreachable else []))]
    | none => []
  .obj ([("exit_code", exitCode), ("signal", signal), ("stdout", .arr ((lines ++ extra).map Json.str)),
    ("stderr", .arr (errors.map Json.str))] ++ responses ++ (if timedOut then [("timed_out", .bool true)] else []))

/-- Which program a command runs: `api` or `worker`. -/
inductive Binary where
  | api
  | worker
  deriving DecidableEq, Repr

/-- The program a command names in `binary`. -/
def binaryOf (command : Json) : Step Binary := do
  match ← need (text command "binary") with
  | "api" => return .api
  | "worker" => return .worker
  | _ => throw "binary must be api or worker"

/-- `run_binary {binary, env?, interrupt_on?, requests?}`: the program is named first, then
its environment, the text it is interrupted on, and its requests. Requests are read whole only
when they are sent. -/
def runBinaryCommand (command : Json) : Step Answer := do
  let binary ← binaryOf command
  let env ← programEnvironment command
  let interruptOn ← need (text? command "interrupt_on")
  let requests ← programRequests command
  let (program, fallback) := match binary with
    | .api => (Programs.Server.main programHost env, Programs.Server.defaultFilter)
    | .worker => (Programs.Worker.main programHost env, Programs.Worker.defaultFilter)
  let console ← get
  let outcome := Programs.run program (Programs.logFilter env fallback) ⟨console.world.server, console.world.serial, []⟩
  set { console with world := { console.world with server := outcome.machine.server, serial := outcome.machine.serial } }
  if interruptedBy outcome interruptOn then
    if let some requests := requests then requests.forM expandRequest
  return .ok (runAnswer outcome interruptOn requests)

end SeatBilling.Console
