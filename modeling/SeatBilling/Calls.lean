import SeatBilling.World
import SeatBilling.Store.Sql
import SeatBilling.Provider.Http

/-!
# Collaborator calls

The billing core's calls to its collaborators, each under the armed faults (see
`SeatBilling.World`): the store's operations, the employee directory's headcount and the
payment provider's hosted invoice. The store's operations and the headcount go to the records in
memory or to the database, as the world's backend says. Each call is one step on the world.
-/

namespace SeatBilling.Calls

open SeatBilling.Time

/-- Reads the store. -/
def readStore {α : Type} (view : Store → α) : BillingM α := do
  return view (← get).store

/-- Replaces the store. -/
def writeStore (store : Store) : BillingM Unit :=
  modify fun world => { world with store := store }

/-- Runs a store step that may fail. -/
def stepStore {α : Type} (step : Store → Except Failure (α × Store)) : BillingM α := do
  match step (← get).store with
  | .ok (value, store) => writeStore store; pure value
  | .error failure => failWith failure

/-- Runs a store step that may fail or overflow. -/
def haltingStep {α : Type} (step : Store → Except Halt (α × Store)) : BillingM α := do
  match step (← get).store with
  | .ok (value, store) => writeStore store; pure value
  | .error halt => throw halt

/-- Runs a store step on the database over the core's connection. A database call waits for
the server, so a timed section with no time left ends before the call is sent. -/
def onDatabase {α : Type} (connection : Option Database.Connection) (step : SqlStore.StoreM α) :
    BillingM α := do
  let world ← get
  if world.timeLeft == some 0 then throw .elapsed
  let (result, link) := (step.run).run ⟨world.server, connection⟩
  set { world with server := link.server, backend := .database link.connection }
  match result with
  | .ok value => pure value
  | .error halt => throw halt

/-- A call that `inMemory` answers on the records in memory and `inDatabase` on the database. -/
def backed {α : Type} (inMemory : BillingM α) (inDatabase : SqlStore.StoreM α) : BillingM α := do
  match (← get).backend with
  | .memory => inMemory
  | .database connection => onDatabase connection inDatabase

/-- The plans in memory, whatever the backend. -/
def listSeededPlans (activeOnly : Bool) : BillingM (List Plan) :=
  guarded .listPlans none none none (readStore (·.listPlans activeOnly))

def listPlans (activeOnly : Bool) : BillingM (List Plan) :=
  guarded .listPlans none none none (backed (readStore (·.listPlans activeOnly)) SqlStore.listPlans)

def getPlan (id : String) : BillingM (Option Plan) :=
  guarded .getPlan none none (some none) (backed (readStore (·.plan? id)) SqlStore.getPlan)

def getFeature (code : String) : BillingM (Option Feature) :=
  guarded .getFeature none none (some none) (backed (readStore (·.feature? code)) SqlStore.getFeature)

def getSubscription (id : Uuid) : BillingM (Option Subscription) :=
  guarded .getSubscription none none (some none)
    (backed (readStore (·.subscription? id)) SqlStore.getSubscription)

def getSubscriptionByCompany (company : Uuid) : BillingM (Option Subscription) :=
  guarded .getSubscriptionByCompany none none (some none)
    (backed (readStore (·.subscriptionOf? company)) SqlStore.getSubscriptionByCompany)

def insertSubscription (subscription : Subscription) : BillingM Unit :=
  guarded .insertSubscription none (some ()) none
    (backed (stepStore fun store => (store.insertSubscription subscription).map ((), ·))
      (SqlStore.insertSubscription subscription))

def updateSubscription (subscription : Subscription) (expectedVersion : Int) : BillingM Bool :=
  guarded .updateSubscription (some false) none none
    (backed (haltingStep fun store => store.updateSubscription subscription expectedVersion)
      (SqlStore.updateSubscription subscription expectedVersion))

def listExpiring (statuses : List SubscriptionStatus) (before : Moment) : BillingM (List Subscription) :=
  guarded .listExpiring none none none
    (backed (readStore (·.listExpiring statuses before)) SqlStore.listExpiring)

def listWithPendingChanges (dueBy : Option Moment) : BillingM (List Subscription) :=
  guarded .listWithPendingChanges none none none
    (backed (readStore (·.listWithPendingChanges dueBy)) SqlStore.listWithPendingChanges)

def updateExpiredToStatus (statuses : List SubscriptionStatus) (cutoff : Moment)
    (target : SubscriptionStatus) (at_ : Moment) : BillingM Nat :=
  guarded .updateExpiredToStatus none none none
    (backed (haltingStep fun store => store.updateExpiredToStatus statuses cutoff target at_)
      SqlStore.updateExpiredToStatus)

def insertInvoice (invoice : Invoice) : BillingM Unit :=
  guarded .insertInvoice none (some ()) none
    (backed (stepStore fun store => (store.insertInvoice invoice).map ((), ·)) (SqlStore.insertInvoice invoice))

def getInvoice (id : Uuid) : BillingM (Option Invoice) :=
  guarded .getInvoice none none (some none) (backed (readStore (·.invoice? id)) SqlStore.getInvoice)

def getInvoiceByProviderId (providerId : String) : BillingM (Option Invoice) :=
  guarded .getInvoiceByProviderId none none (some none)
    (backed (readStore (·.invoiceByProviderId? providerId)) SqlStore.getInvoiceByProviderId)

def findPendingInvoice (company : Uuid) : BillingM (Option Invoice) :=
  guarded .findPendingInvoice none none (some none)
    (backed (readStore (·.findPendingInvoice company)) SqlStore.findPendingInvoice)

def countPendingInvoices (company : Uuid) : BillingM Int :=
  guarded .countPendingInvoices none none none
    (backed (readStore fun store => ((store.pendingOf company).length : Int)) SqlStore.countPendingInvoices)

def listInvoices (company : Uuid) : BillingM (List Invoice) :=
  guarded .listInvoices none none none (backed (readStore (·.listInvoices company)) SqlStore.listInvoices)

def attachProviderInvoice (id : Uuid) (providerId url : String) (expiresAt : Option Moment) :
    BillingM Unit :=
  guarded .attachProviderInvoice none (some ()) none
    (backed (stepStore fun store => (store.attachProviderInvoice id providerId url expiresAt).map ((), ·))
      (SqlStore.attachProviderInvoice id))

def transitionInvoice (id : Uuid) (target : InvoiceStatus) (payment : Option Payment) : BillingM Bool :=
  guarded .transitionInvoice (some false) none none
    (backed (stepStore fun store => store.transitionInvoice id target payment)
      (SqlStore.transitionInvoice target payment))

def settleInvoice (id : Uuid) (payment : Payment) (write : SubscriptionWrite) : BillingM Bool :=
  guarded .settleInvoice (some false) none none
    (backed (haltingStep fun store => store.settleInvoice id payment write) (SqlStore.settleInvoice id write))

def listStalePendingInvoices (before : Moment) : BillingM (List Invoice) :=
  guarded .listStalePendingInvoices none none none
    (backed (readStore (·.listStalePendingInvoices before)) SqlStore.listStalePendingInvoices)

def companiesWithMultiplePendingInvoices : BillingM (List (Uuid × Int)) :=
  guarded .companiesWithMultiplePendingInvoices none none none
    (backed (readStore (·.companiesWithMultiplePendingInvoices)) SqlStore.companiesWithMultiplePendingInvoices)

def paidInvoicesMissingPaidAt : BillingM (List Invoice) :=
  guarded .paidInvoicesMissingPaidAt none none none
    (backed (readStore (·.paidInvoicesMissingPaidAt)) SqlStore.paidInvoicesMissingPaidAt)

def appendEvent (event : Event) : BillingM Unit :=
  guarded .appendEvent none (some ()) none
    (backed (stepStore fun store => .ok ((), store.appendEvent event)) SqlStore.appendEvent)

def listEvents (company : Uuid) : BillingM (List Event) :=
  guarded .listEvents none none none (backed (readStore (·.listEvents company)) SqlStore.listEvents)

/-- The number of a company's active employees. -/
def countActive (company : Uuid) : BillingM Int :=
  guarded .countActive none none none <| backed
    (do return (((← get).headcount.find? (·.1 == company)).map (·.2)).getD 0)
    SqlStore.countActive

/-- The provider's id for a local invoice. -/
def providerIdFor (invoice : Uuid) : String := "inv_" ++ invoice.simple

/-- The address a provider at `base` takes invoices at: `base` without trailing slashes, then
`/v2/invoices`. -/
def invoicesEndpoint (base : String) : String :=
  String.ofList (base.toList.reverse.dropWhile (· == '/')).reverse ++ "/v2/invoices"

/-- The provider the settings name: behind the invoices address of the configured base, with no
request recorded and nothing refused. -/
def configuredProvider (config : Config) : ProviderState :=
  ⟨none, [], some (invoicesEndpoint config.providerUrl)⟩

/-- The client the core asks a provider at `endpoint` through: the configured secret key and
redirect page. -/
def hostedClient (config : Config) (endpoint : String) : Provider.HttpClient :=
  ⟨endpoint, config.providerSecretKey, config.successRedirectUrl⟩

/-- What a POST to `url` brings back from a provider behind an HTTP address: no connection to
it can be made, so the request is never sent. -/
def unreachable (url : String) : Provider.HttpAnswer :=
  .unsent ("error sending request for url (" ++ url ++ ")")

/-- Asks the payment provider for a hosted invoice. A provider behind an HTTP address is asked
through the hosted-invoice client, with the configured secret key and redirect page, over a
transport that cannot reach it. The local provider refuses while it is told to, and otherwise
records the request and answers with an id made from the local invoice's id. -/
def createProviderInvoice (request : ProviderRequest) : BillingM ProviderInvoice :=
  guarded .createProviderInvoice none none none do
    let world ← get
    match world.provider.endpoint, world.provider.refusal with
    | some endpoint, _ =>
      match ← (hostedClient world.config endpoint).createInvoice (fun post => pure (unreachable post.url))
          (fun level => emit level "hrcore_billing::provider") request with
      | .ok created => pure created
      | .error failure => failWith failure
    | none, some reason => failWith (.providerRejected reason)
    | none, none =>
      set { world with provider := { world.provider with requests := world.provider.requests ++ [request] } }
      let id := providerIdFor request.invoice
      pure ⟨id, "https://pay.example.test/" ++ id, none⟩

end SeatBilling.Calls
