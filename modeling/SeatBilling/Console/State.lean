import SeatBilling.Console.Labels
import SeatBilling.Console.Fields
import SeatBilling.Calls

/-!
# The console's state

A console runs one script against one billing world. Besides the world it keeps the
script's labels (see `SeatBilling.Console.Labels`). After every command it discovers the
records the command made: each registered company's subscription, if no label names it yet,
is labelled `sub-<company>`, and its unlabelled invoices, oldest first, `inv1`, `inv2`, … from
one count for the whole script.
-/

namespace SeatBilling.Console

open SeatBilling.Time

/-- How the console signs access tokens for the HTTP interface: the secret, which the
interface also checks tokens with, and how many hours a token lasts. -/
structure TokenSettings where
  secret : String
  expiryHours : Int
  deriving Repr

/-- The token settings of a script that sets none. -/
def TokenSettings.standard : TokenSettings := ⟨"test-jwt-secret-key-for-testing-only", 24⟩

/-- The wall-clock time, in unix seconds, at which the console issues access tokens and the
HTTP interface checks them: 2026-03-01T00:00:00Z, two months after a script clock's default
start. A token the console issues is judged at the moment it was issued; one a script writes
itself is judged against this moment. -/
def tokenClock : Int := 1772323200

/-- The wall clock's reading where a program reads the wall clock instead of the script's
clock: the moment of `tokenClock`. Scripts keep every moment that such a reading decides about
years away from it. -/
def wallClock : Moment := ⟨tokenClock * nanosPerSecond, 0⟩

/-- The loopback port of the HTTP stand-in for the payment provider. -/
def standInPort : Nat := 40417

/-- The loopback port of the database server; another program that binds it finds it taken. -/
def databasePort : Nat := 40418

/-- A loopback port no program listens on. -/
def freePort : Nat := 40419

/-- The loopback address of the HTTP stand-in for the payment provider. -/
def standInAddress : String := "http://127.0.0.1:" ++ toString standInPort

/-- The loopback address of the database server. -/
def databaseAddress : String := "127.0.0.1:" ++ toString databasePort

/-- The address of the database server that clients connect to, over its local socket (whose
directory answers show as `PGDIR`). -/
def databaseUrl : String := "postgres://oracle@localhost:5432/oracle?host=PGDIR&sslmode=disable"

/-- The templates for the addresses of the scripted servers: `{{pg}}`, `{{pg_addr}}` and
`{{http}}`. -/
def serverTemplate (body : String) : Option String :=
  match body with
  | "pg" => some databaseUrl
  | "pg_addr" => some databaseAddress
  | "http" => some standInAddress
  | _ => none

/-- The console's state: the world of the billing core, the labels of the script, and how
access tokens are made. -/
structure State where
  world : World
  labels : Labels
  tokens : TokenSettings
  deriving Repr

/-- A step of the console. -/
abbrev ConsoleM := StateM State

/-- What a command answers. -/
inductive Answer where
  /-- The command's value. -/
  | ok (value : Json)
  /-- The billing core failed. -/
  | failed (failure : Failure)
  /-- The console refused the command; nothing changed. -/
  | refused (message : String)
  /-- Another kind of error, with its fields. -/
  | raised (kind : String) (message : String) (extra : List (String × Json))
  /-- The computation overflowed; the script stops here. -/
  | panic
  deriving Repr

/-- The answer as a document. -/
def Answer.toJson : Answer → Json
  | .ok value => .obj [("ok", value)]
  | .failed failure => .obj [("error", .str failure.kindName), ("message", .str failure.message)]
  | .refused message => .obj [("error", .str "BadInput"), ("message", .str message)]
  | .raised kind message extra => .obj ([("error", .str kind), ("message", .str message)] ++ extra)
  | .panic => .obj [("error", .str "panic")]

/-- The answer carrying a written document; a value that cannot be written (a time outside
the years 0 to 9999) answers null, since its serialization fails as a whole. -/
def Answer.ofWritten : Option Json → Answer
  | some json => .ok json
  | none => .ok .null

/-- A fresh identifier from the world's supply. -/
def fresh : ConsoleM Uuid := do
  let console ← get
  set { console with world := { console.world with serial := console.world.serial + 1 } }
  return Uuid.ofSerial console.world.serial

/-- The labels, changed by `change`. -/
def changeLabels (change : Labels → Labels) : ConsoleM Unit :=
  modify fun console => { console with labels := change console.labels }

/-- The identifier a label names, binding it to a fresh one on first use. -/
def bindLabel (label : String) : ConsoleM Uuid := do
  match (← get).labels.lookup label with
  | some id => return id
  | none =>
    let id ← fresh
    changeLabels (·.point label id)
    return id

/-- The identifier a company label names, registering the company on first mention. -/
def bindCompany (label : String) : ConsoleM Uuid := do
  let id ← bindLabel label
  changeLabels (·.registerCompany label)
  return id

/-- Points a label at a stored record. -/
def pointLabel (label : String) (id : Uuid) : ConsoleM Unit := changeLabels (·.point label id)

/-- Runs an operation of the billing core on the world. -/
def runBilling {α : Type} (action : BillingM α) : ConsoleM (Except Halt α) := do
  let console ← get
  let (result, world) := (action.run).run console.world
  set { console with world := world }
  return result

/-- The answer of an operation of the billing core, its value written by `write`. -/
def answerWith {α : Type} (action : BillingM α) (write : α → Option Json) : ConsoleM Answer := do
  match ← runBilling action with
  | .ok value => return .ofWritten (write value)
  | .error (.failed failure) => return .failed failure
  | .error _ => return .panic

/-- Labels the records of one company that no label names yet. -/
def discoverCompany (company : String) : ConsoleM Unit := do
  let some companyId := (← get).labels.lookup company | return
  let store := (← get).world.store
  if let some subscription := store.subscriptionOf? companyId then
    if ((← get).labels.labelOf subscription.id).isNone then
      pointLabel ("sub-" ++ company) subscription.id
  let unlabelled := (store.invoices.filter fun invoice =>
    invoice.company == companyId).mergeSort (fun first second => decide (first.createdAt ≤ second.createdAt))
  for invoice in unlabelled do
    if ((← get).labels.labelOf invoice.id).isNone then
      let count := (← get).labels.invoiceCount + 1
      changeLabels fun labels => { labels.point ("inv" ++ toString count) invoice.id with invoiceCount := count }

/-- Labels the records of every registered company that no label names yet. -/
def discover : ConsoleM Unit := do
  for company in (← get).labels.companies do
    discoverCompany company

/-! ## Templates -/

/-- The text a template `{{body}}` stands for, if it is one the console knows: `id:L` and
`prov:L` both bind the label `L` when it is new. -/
def templateValue (body : String) : ConsoleM (Option String) := do
  if body.startsWith "id:" then
    let id ← bindLabel (body.drop 3).toString
    return some id.hyphenated
  else if body.startsWith "prov:" then
    let id ← bindLabel (body.drop 5).toString
    match (← get).world.store.invoice? id with
    | some invoice => return some (invoice.providerInvoiceId.getD "")
    | none => return some ""
  else return none

/-- The text before the first `}}` and the text after it, if there is one. -/
def untilClose : List Char → Option (List Char × List Char)
  | '}' :: '}' :: rest => some ([], rest)
  | char :: rest => (untilClose rest).map fun (body, after) => (char :: body, after)
  | [] => none

/-- Expands the templates of a text, `fuel` templates at most; `extra` gives the templates
that only some fields know. A template runs from `{{` to the first `}}` after it, whatever
stands between; one the console does not know stays as it is, and the text goes on after it. -/
def expandFrom (extra : String → Option String) : Nat → List Char → ConsoleM (List Char)
  | 0, rest => return rest
  | fuel + 1, rest => do
    match rest with
    | '{' :: '{' :: after =>
      match untilClose after with
      | none => return rest
      | some (body, following) =>
        let value ← match ← templateValue (String.ofList body) with
          | some value => pure (some value)
          | none => pure (extra (String.ofList body))
        match value with
        | some value => return value.toList ++ (← expandFrom extra fuel following)
        | none => return '{' :: '{' :: body ++ '}' :: '}' :: (← expandFrom extra fuel following)
    | char :: after => return char :: (← expandFrom extra fuel after)
    | [] => return []

/-- Expands the templates of a text, with the templates `extra` gives besides `{{id:L}}` and
`{{prov:L}}`. -/
def expandWith (extra : String → Option String) (text : String) : ConsoleM String := do
  return String.ofList (← expandFrom extra (text.length + 1) text.toList)

/-- Expands the templates `{{id:L}}` and `{{prov:L}}` of a text. -/
def expand (text : String) : ConsoleM String := expandWith (fun _ => none) text

mutual

/-- A document with the templates of every string value expanded. -/
def expandDocument : Json → ConsoleM Json
  | .str text => return .str (← expand text)
  | .arr items => return .arr (← expandItems items)
  | .obj members => return .obj (← expandMembers members)
  | other => return other

/-- `expandDocument` over the items of an array. -/
def expandItems : List Json → ConsoleM (List Json)
  | [] => return []
  | item :: rest => return (← expandDocument item) :: (← expandItems rest)

/-- `expandDocument` over the values of an object's members. -/
def expandMembers : List (String × Json) → ConsoleM (List (String × Json))
  | [] => return []
  | (key, value) :: rest => return (key, ← expandDocument value) :: (← expandMembers rest)

end

end SeatBilling.Console
