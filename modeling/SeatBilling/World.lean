import SeatBilling.Store.Basic
import SeatBilling.Config
import SeatBilling.Database.Session
import SeatBilling.Log.Record

/-!
# The world the billing core acts in

The billing core works through collaborators: the store, the employee directory (how many
active employees a company has), the payment provider and a clock. `World` holds their
state, the configuration, and the faults that collaborator calls are told to run into.

An operation of the core is a `BillingM` action: it reads and changes the world and ends
with a value or a `Halt`. A halt keeps the changes made before it, as a failed operation in
a store without transactions does. There are three ways to halt: a `Failure` the operation
reports; running out of the time allowed to a timed section (`elapsed`); and arithmetic
leaving the range of its words or of the calendar (`overflow`), which ends the whole run.
Only the first can be caught by the core itself.

Faults are kept in the order they were armed. A call takes the first fault armed for it
whose count is not zero and uses up one of a positive count; a negative count never runs
out. What the fault does is its kind: fail with a failure of that kind; be slow (which a
timed section does not survive); or, for the calls where these make sense, report a stale
version, lose a write, or find nothing.
-/

namespace SeatBilling

open SeatBilling.Time

/-- A call of the billing core to one of its collaborators. -/
inductive Call where
  | listPlans
  | getPlan
  | getFeature
  | getSubscription
  | getSubscriptionByCompany
  | insertSubscription
  | updateSubscription
  | listExpiring
  | listWithPendingChanges
  | updateExpiredToStatus
  | insertInvoice
  | getInvoice
  | getInvoiceByProviderId
  | findPendingInvoice
  | countPendingInvoices
  | listInvoices
  | attachProviderInvoice
  | transitionInvoice
  | settleInvoice
  | listStalePendingInvoices
  | companiesWithMultiplePendingInvoices
  | paidInvoicesMissingPaidAt
  | appendEvent
  | listEvents
  /-- The employee directory's count of a company's active employees. -/
  | countActive
  /-- The payment provider's creation of a hosted invoice. -/
  | createProviderInvoice
  deriving DecidableEq, Repr

namespace Call

/-- Every call. -/
def all : List Call :=
  [.listPlans, .getPlan, .getFeature, .getSubscription, .getSubscriptionByCompany,
    .insertSubscription, .updateSubscription, .listExpiring, .listWithPendingChanges,
    .updateExpiredToStatus, .insertInvoice, .getInvoice, .getInvoiceByProviderId,
    .findPendingInvoice, .countPendingInvoices, .listInvoices, .attachProviderInvoice,
    .transitionInvoice, .settleInvoice, .listStalePendingInvoices,
    .companiesWithMultiplePendingInvoices, .paidInvoicesMissingPaidAt, .appendEvent, .listEvents,
    .countActive, .createProviderInvoice]

/-- The name of a call. -/
def name : Call → String
  | .listPlans => "list_plans"
  | .getPlan => "get_plan"
  | .getFeature => "get_feature"
  | .getSubscription => "get_subscription"
  | .getSubscriptionByCompany => "get_subscription_by_company"
  | .insertSubscription => "insert_subscription"
  | .updateSubscription => "update_subscription"
  | .listExpiring => "list_expiring"
  | .listWithPendingChanges => "list_with_pending_changes"
  | .updateExpiredToStatus => "update_expired_to_status"
  | .insertInvoice => "insert_invoice"
  | .getInvoice => "get_invoice"
  | .getInvoiceByProviderId => "get_invoice_by_provider_id"
  | .findPendingInvoice => "find_pending_invoice"
  | .countPendingInvoices => "count_pending_invoices"
  | .listInvoices => "list_invoices"
  | .attachProviderInvoice => "attach_provider_invoice"
  | .transitionInvoice => "transition_invoice"
  | .settleInvoice => "settle_invoice"
  | .listStalePendingInvoices => "list_stale_pending_invoices"
  | .companiesWithMultiplePendingInvoices => "companies_with_multiple_pending_invoices"
  | .paidInvoicesMissingPaidAt => "paid_invoices_missing_paid_at"
  | .appendEvent => "append_event"
  | .listEvents => "list_events"
  | .countActive => "count_active_by_company_id"
  | .createProviderInvoice => "create_invoice"

end Call

/-- What an armed fault makes a call do. -/
inductive FaultKind where
  | database
  | internal
  | timeout
  | provider
  | rejected
  | concurrent
  /-- The call takes an hour, then does its work. -/
  | slow
  /-- A versioned write or a transition reports that it lost the race. -/
  | stale
  /-- A write reports success and writes nothing. -/
  | skip
  /-- A lookup finds nothing. -/
  | missing
  /-- The call does its work; the fault only uses up its count. -/
  | pass
  deriving DecidableEq, Repr

/-- The kind of a fault's name; a name of no kind lets the call do its work. -/
def FaultKind.parse (text : String) : FaultKind :=
  if text == "database" then .database
  else if text == "internal" then .internal
  else if text == "timeout" then .timeout
  else if text == "provider" then .provider
  else if text == "rejected" then .rejected
  else if text == "concurrent" then .concurrent
  else if text == "slow" then .slow
  else if text == "stale" then .stale
  else if text == "skip" then .skip
  else if text == "missing" then .missing
  else .pass

/-- A fault armed for the calls of a method, named as calls are named (a name no call has
is never hit): its kind, how many more calls it hits, and the text of the failure it causes. -/
structure Fault where
  method : String
  kind : FaultKind
  remaining : Int
  message : String
  deriving DecidableEq, Repr

/-- The failure a failing fault causes, if its kind is one that fails. -/
def Fault.failure (fault : Fault) : Option Failure :=
  match fault.kind with
  | .database => some (.database fault.message)
  | .internal => some (.internal fault.message)
  | .timeout => some (.timedOut fault.message)
  | .provider => some (.providerUnavailable fault.message)
  | .rejected => some (.providerRejected fault.message)
  | .concurrent => some (.concurrentModification fault.message)
  | _ => none

/-- Takes the first fault armed for a call whose count is not zero, using up one of a
positive count; gives the fault and the faults left. -/
def takeFault (call : Call) : List Fault → Option Fault × List Fault
  | [] => (none, [])
  | fault :: rest =>
    if fault.method == call.name && fault.remaining != 0 then
      (some fault, (if fault.remaining > 0 then { fault with remaining := fault.remaining - 1 } else fault) :: rest)
    else
      let (taken, left) := takeFault call rest
      (taken, fault :: left)

/-- What the core asks the payment provider to collect. -/
structure ProviderRequest where
  invoice : Uuid
  company : Uuid
  amount : Int
  description : String
  ttlSeconds : Int
  deriving DecidableEq, Repr

/-- The provider's hosted invoice. -/
structure ProviderInvoice where
  providerInvoiceId : String
  invoiceUrl : String
  expiresAt : Option Moment
  deriving DecidableEq, Repr

/-- The state of the payment provider: a local provider that records what it is asked and
may be told to refuse every request, unless a provider behind an HTTP address (`endpoint`,
the address invoices are posted to) replaces it. -/
structure ProviderState where
  refusal : Option String
  requests : List ProviderRequest
  endpoint : Option String
  deriving Repr

/-- Where the billing core keeps its records: in memory, or in the tables of the database
server, over the core's own connection (none while it has not opened one). -/
inductive Backend where
  | memory
  | database (connection : Option Database.Connection)
  deriving Repr

/-- The state of the billing core and its collaborators. -/
structure World where
  config : Config
  /-- The records in memory. They are the records of the core when its backend is memory. -/
  store : Store
  backend : Backend
  /-- The scripted database server, which every client of a database talks to. -/
  server : Database.Server
  /-- Active employees per company; a company not listed has none. -/
  headcount : List (Uuid × Int)
  provider : ProviderState
  faults : List Fault
  clock : Moment
  /-- The serial number of the next fresh identifier. -/
  serial : Nat
  /-- The seconds left to the running timed section, if one is running. -/
  timeLeft : Option Nat
  /-- The log records the core has written, oldest first. -/
  logs : List Log.Record
  deriving Repr

/-- An operation of the billing core. -/
abbrev BillingM := ExceptT Halt (StateM World)

/-- Fails with a failure. -/
def failWith {α : Type} (failure : Failure) : BillingM α := throw (.failed failure)

/-- The value, or a halt for arithmetic out of range. -/
def orOverflow {α : Type} : Option α → BillingM α
  | some value => pure value
  | none => throw .overflow

/-- Runs an action; a failure it reports goes to `handler`, other halts go on. -/
def catchFailure {α : Type} (action : BillingM α) (handler : Failure → BillingM α) : BillingM α :=
  tryCatch action fun
    | .failed failure => handler failure
    | other => throw other

/-- Runs an action and gives its failure as a value; other halts go on. -/
def attempt {α : Type} (action : BillingM α) : BillingM (Except Failure α) :=
  catchFailure (Except.ok <$> action) (fun failure => pure (.error failure))

/-- The clock's reading. -/
def now : BillingM Moment := do return (← get).clock

/-- The configuration. -/
def config : BillingM Config := do return (← get).config

/-- A fresh identifier. -/
def freshId : BillingM Uuid := do
  let world ← get
  set { world with serial := world.serial + 1 }
  return Uuid.ofSerial world.serial

/-- Writes a log record for the part of the core named `target`. -/
def emit (level : Log.Level) (target message : String) (fields : List (String × String)) :
    BillingM Unit :=
  modify fun world => { world with logs := world.logs ++ [⟨level, target, message, fields⟩] }

/-- How long a slow call takes, in seconds. -/
def slowCallSeconds : Nat := 3600

/-- Runs an action as a section allowed `limit` seconds: when a slow call inside would run
past the limit, the section stops where it is, keeping what it changed so far, and ends
with `elapsed`. -/
def timedSection {α : Type} (limit : Nat) (action : BillingM α) : BillingM α := do
  let outer := (← get).timeLeft
  modify fun world => { world with timeLeft := some limit }
  let result ← tryCatch (Except.ok <$> action) (fun halt => pure (.error halt))
  modify fun world => { world with timeLeft := outer }
  match result with
  | .ok value => pure value
  | .error halt => throw halt

/-- A slow call: it uses up its time from the running timed section, or ends the section
with `elapsed` when not enough is left. -/
def slowCall : BillingM Unit := do
  match (← get).timeLeft with
  | none => pure ()
  | some left =>
    if left < slowCallSeconds then throw .elapsed
    else modify fun world => { world with timeLeft := some (left - slowCallSeconds) }

/-- A collaborator call under the armed faults: `work` is what it does normally; `onStale`,
`onSkip` and `onMissing` are what it gives instead for faults of those kinds, where the call
has such an answer. -/
def guarded {α : Type} (call : Call) (onStale onSkip onMissing : Option α) (work : BillingM α) :
    BillingM α := do
  let world ← get
  let (taken, left) := takeFault call world.faults
  set { world with faults := left }
  match taken with
  | none => work
  | some fault =>
    match fault.failure with
    | some failure => failWith failure
    | none =>
      match fault.kind with
      | .slow => do slowCall; work
      | .stale => onStale.elim work pure
      | .skip => onSkip.elim work pure
      | .missing => onMissing.elim work pure
      | _ => work

end SeatBilling
