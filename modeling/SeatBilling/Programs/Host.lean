import SeatBilling.Calls
import SeatBilling.Environment
import SeatBilling.Log.Filter
import SeatBilling.Net.SocketAddress

/-!
# Running a program

The two programs, the API server and the worker, run on a host: a machine with the scripted
database server, some ports already taken by other programs, and a wall clock. A run logs
records, talks to the database server, and either stops with an error, which it writes to its
error stream, or keeps running until it is interrupted.

A program writes the records its log filter lets through: the filter in `RUST_LOG` when that
variable holds one, else the program's own. A program that stops with an error exits with
code 1; one that panics exits with code 101. A program that keeps running either shuts down
cleanly when interrupted, after logging some more, or is killed by the interrupt.
-/

namespace SeatBilling.Programs

open SeatBilling.Time

/-- The machine a program runs on. -/
structure Host where
  /-- The one database address that reaches the scripted database server. -/
  databaseUrl : String
  /-- The ports other programs already listen on. -/
  takenPorts : List Nat
  /-- The time on the wall clock. -/
  clock : Moment

/-- The state of a run: the database server it talks to, the next serial number for new
identifiers, and the records logged so far. -/
structure Machine where
  server : Database.Server
  serial : Nat
  records : List Log.Record

/-- Why a program stops early: an error it returns, or a panic. -/
inductive Abort where
  | error (chain : ErrorChain)
  | panic (message : String)
  deriving Repr

/-- A step of a program. -/
abbrev ProgramM := ExceptT Abort (StateM Machine)

/-- What a program that keeps running does when it is interrupted. -/
inductive OnInterrupt where
  /-- It logs these records and exits with code 0. -/
  | shutDown (records : List Log.Record)
  /-- It is killed by the interrupt. -/
  | dies
  deriving Repr

/-- How a run ends by itself. -/
inductive Ending where
  /-- The program exits with a code, having written these lines to its error stream. -/
  | exits (code : Nat) (errors : List String)
  /-- The program keeps running until it is interrupted. -/
  | waits (onInterrupt : OnInterrupt)
  deriving Repr

/-- A finished run: the records the program wrote, how it ended, and the state it left. -/
structure Outcome where
  records : List Log.Record
  ending : Ending
  machine : Machine

/-- Logs a record. -/
def log (level : Log.Level) (target message : String) (fields : List (String × String)) :
    ProgramM Unit :=
  modify fun machine => { machine with records := machine.records ++ [⟨level, target, message, fields⟩] }

/-- Stops the program with an error. -/
def fail {α : Type} (chain : ErrorChain) : ProgramM α := throw (.error chain)

/-- Whether a character may follow the first letter of a URL scheme. -/
def schemeChar (char : Char) : Bool := char.isAlphanum || char == '+' || char == '-' || char == '.'

/-- Whether a text starts with a URL scheme: a letter, then letters, digits, `+`, `-` or `.`,
then a colon. A text without one is a relative URL, which has no meaning without a base. -/
def hasScheme (url : String) : Bool :=
  match url.toList with
  | first :: rest => first.isAlpha && (rest.dropWhile schemeChar).head? == some ':'
  | [] => false

/-- A database address without the control characters and spaces around it, which a URL
ignores. -/
def trimUrl (url : String) : String :=
  let outer := fun (char : Char) => char ≤ ' '
  String.ofList (((url.toList.dropWhile outer).reverse.dropWhile outer).reverse)

/-- Whether a character may not stand in the host of a URL whose scheme has no host rules of
its own. -/
def forbiddenHostChar (char : Char) : Bool :=
  char == '\x00' || char == ' ' || "<>[]^|\\".toList.contains char

/-- Why the port part of a URL's authority (what follows the host) is not a port: it must be
empty, or a colon and at most 65535 in decimal digits. -/
def portProblem? (rest : List Char) : Option String :=
  match rest with
  | [] => none
  | ':' :: digits =>
    if digits.all Char.isDigit && digits.foldl (fun value digit => value * 10 + (digit.toNat - 48)) 0 ≤ 65535
    then none else some "invalid port number"
  | _ => some "invalid port number"

/-- Why a database address is not a URL, if it is not one: it has no scheme, or, when it names
a host after `//`, the host or the port is malformed. Tabs and line breaks inside are ignored, as
are control characters and spaces around it. -/
def urlProblem? (url : String) : Option String :=
  let chars := (trimUrl url).toList.filter fun char => char != '\t' && char != '\n' && char != '\r'
  if !hasScheme (String.ofList chars) then some "relative URL without a base"
  else
    match chars.dropWhile (· != ':') with
    | ':' :: '/' :: '/' :: rest =>
      let authority := rest.takeWhile fun char => char != '/' && char != '?' && char != '#'
      let hostPort := if authority.contains '@' then (authority.reverse.takeWhile (· != '@')).reverse else authority
      match hostPort with
      | '[' :: inside =>
        let address := inside.takeWhile (· != ']')
        match inside.dropWhile (· != ']') with
        | ']' :: after =>
          match Net.readIpv6 address with
          | some (_, []) => portProblem? after
          | _ => some "invalid IPv6 address"
        | _ => some "invalid IPv6 address"
      | _ =>
        let host := hostPort.takeWhile (· != ':')
        if host.any forbiddenHostChar then some "invalid domain character"
        else portProblem? (hostPort.dropWhile (· != ':'))
    | _ => none

/-- Opens a pool of connections to the database at `url`. Opening it sends no statement: a
database address that is not a URL fails at once, and any address but the scripted server's
never answers, so the pool gives up waiting for a connection. -/
def connectPool (host : Host) (url : String) : ProgramM Unit :=
  match urlProblem? url with
  | some problem => fail ⟨"error with configuration: " ++ problem, [problem]⟩
  | none =>
    if trimUrl url == host.databaseUrl then pure ()
    else fail (.plain "pool timed out while waiting for an open connection")

/-- The index of the loopback interface, the one interface a scope may name here. -/
def loopbackInterface : Nat := 1

/-- Why the machine refuses to let a program listen on an address, as the system error it
reports, checking in this order:

* an IPv6 multicast address is no address to listen on;
* a port from 1 to 1023 needs a privilege that programs here lack;
* an IPv6 address other than `::` and those mapped from IPv4 must be one of the machine's, and
  it has none; a link-local one is first tied to the interface its scope names, which must be
  given and exist;
* a port another program listens on is in use.

Any IPv4 address may be listened on, the machine's own or not, mapped into IPv6 or not. -/
def bindProblem? (host : Host) (address : Net.SocketAddress) : Option String :=
  let invalid := some "Invalid argument (os error 22)"
  let unreachable := some "Cannot assign requested address (os error 99)"
  let addressProblem : Option String := match address with
    | .v4 _ _ => none
    | .v6 groups scope _ =>
      if Net.isUnspecified groups || Net.isMappedIpv4 groups then none
      else if Net.isLinkLocal groups then
        if scope == 0 then invalid
        else if scope == loopbackInterface then unreachable
        else some "No such device (os error 19)"
      else unreachable
  let multicast := match address with
    | .v6 groups _ _ => Net.isMulticast groups
    | .v4 _ _ => false
  let port := address.port
  if multicast then invalid
  else if 0 < port && port < 1024 then some "Permission denied (os error 13)"
  else if addressProblem.isSome then addressProblem
  else if host.takenPorts.contains port then some "Address already in use (os error 98)"
  else none

/-- Listens on an address, unless the machine refuses it (`bindProblem?`). -/
def bind (host : Host) (address : Net.SocketAddress) : ProgramM Unit :=
  match bindProblem? host address with
  | some problem => fail (.plain problem)
  | none => pure ()

/-- The billing core's settings from the environment; a configuration failure stops the
program, an overflow panics it. -/
def coreConfig (env : Environment) : ProgramM Config :=
  match Config.fromEnvironment env with
  | .ok config => pure config
  | .error (.failed failure) => fail (.plain failure.message)
  | .error _ => throw (.panic "overflow constructing a duration")

/-- Runs an action of the billing core over the database, with the wall clock and the
provider the settings name. Its records join the program's. -/
def runCore {α : Type} (host : Host) (config : Config) (action : BillingM α) : ProgramM α := do
  let machine ← get
  let world : World :=
    { config := config, store := Store.empty, backend := .database none, server := machine.server,
      headcount := [], provider := Calls.configuredProvider config,
      faults := [], clock := host.clock, serial := machine.serial, timeLeft := none, logs := [] }
  let (result, after) := action.run.run world
  set { machine with server := after.server, serial := after.serial, records := machine.records ++ after.logs }
  match result with
  | .ok value => pure value
  | .error (.failed failure) => fail (.plain failure.message)
  | .error _ => throw (.panic "arithmetic overflow")

/-- The log filter of a program: the one in `RUST_LOG` when it holds one, else `fallback`. -/
def logFilter (env : Environment) (fallback : String) : Log.Filter :=
  match (env.get? "RUST_LOG").bind Log.Filter.parse? with
  | some filter => filter
  | none => (Log.Filter.parse? fallback).getD ⟨[]⟩

/-- The lines a panicking program writes to its error stream. -/
def panicReport (message : String) : List String :=
  ["thread 'main' panicked:", message,
    "note: run with " ++ "\x60RUST_BACKTRACE=1\x60" ++ " environment variable to display a backtrace"]

/-- Runs a program from `machine`, writing the records `filter` lets through. -/
def run (program : ProgramM OnInterrupt) (filter : Log.Filter) (machine : Machine) : Outcome :=
  let (result, after) := program.run.run machine
  let ending : Ending := match result with
    | .ok (.shutDown records) => .waits (.shutDown (records.filter filter.allows))
    | .ok .dies => .waits .dies
    | .error (.error chain) => .exits 1 chain.report
    | .error (.panic message) => .exits 101 (panicReport message)
  ⟨after.records.filter filter.allows, ending, after⟩

end SeatBilling.Programs
