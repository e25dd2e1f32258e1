import SeatBilling.Catalog.Plan
import SeatBilling.Ledger.Subscription
import SeatBilling.Ledger.Invoice
import SeatBilling.Ledger.Event
import SeatBilling.Failure

/-!
# The billing store

Everything the billing core keeps: the catalog's plans and features, the subscriptions, the
invoices and the event log. Plans, subscriptions and invoices are kept in the order they
were first stored, and a later write of the same id replaces the entry where it stands.

Each operation is one atomic step on the store. The rules they keep:

- a company gets a second subscription only by seeding (`insertSubscription` refuses);
- an update names the version it read and is refused (`false`) if the stored version differs;
  a successful update stores the next version;
- a pending invoice is refused while the company has another pending one;
- an invoice leaves `pending` at most once: every transition of an invoice that is not
  pending is refused (`false`);
- settling an invoice marks it paid and writes the subscription in one step, or does nothing.
-/

namespace SeatBilling

open SeatBilling.Time

/-- The billing core's records. -/
structure Store where
  features : List Feature
  plans : List Plan
  subscriptions : List Subscription
  invoices : List Invoice
  events : List Event
  deriving Repr

namespace Store

/-- The store with nothing in it. -/
def empty : Store := ⟨[], [], [], [], []⟩

/-- Replaces the entry with the same key, or appends one. -/
def upsert {α : Type} (sameKey : α → α → Bool) (entry : α) (entries : List α) : List α :=
  if entries.any (sameKey entry) then entries.map (fun old => if sameKey entry old then entry else old)
  else entries ++ [entry]

/-! ## Seeding -/

/-- Stores a feature, replacing the one with its code. -/
def seedFeature (store : Store) (feature : Feature) : Store :=
  { store with features := upsert (fun new old => new.code == old.code) feature store.features }

/-- Stores a plan, replacing the one with its id; its features are stored too, where their
codes are new. -/
def seedPlan (store : Store) (plan : Plan) : Store :=
  let features := plan.features.foldl
    (fun known feature => if known.any (·.code == feature.code) then known else known ++ [feature])
    store.features
  { store with
    features := features,
    plans := upsert (fun new old => new.id == old.id) plan store.plans }

/-- Stores a subscription as it is, replacing the one with its id. -/
def seedSubscription (store : Store) (subscription : Subscription) : Store :=
  { store with subscriptions := upsert (fun new old => new.id == old.id) subscription store.subscriptions }

/-- Stores an invoice as it is, replacing the one with its id. -/
def seedInvoice (store : Store) (invoice : Invoice) : Store :=
  { store with invoices := upsert (fun new old => new.id == old.id) invoice store.invoices }

/-! ## Catalog -/

/-- The plans, or the active ones only, in tier order. -/
def listPlans (store : Store) (activeOnly : Bool) : List Plan :=
  Plan.sortByTier (store.plans.filter (fun plan => !activeOnly || plan.active))

/-- The plan with an id. -/
def plan? (store : Store) (id : String) : Option Plan := store.plans.find? (·.id == id)

/-- The feature with a code. -/
def feature? (store : Store) (code : String) : Option Feature := store.features.find? (·.code == code)

/-! ## Subscriptions -/

/-- The subscription with an id. -/
def subscription? (store : Store) (id : Uuid) : Option Subscription :=
  store.subscriptions.find? (·.id == id)

/-- The subscription of a company. -/
def subscriptionOf? (store : Store) (company : Uuid) : Option Subscription :=
  store.subscriptions.find? (·.company == company)

/-- Stores a new subscription under its id; refused if the company already has one. -/
def insertSubscription (store : Store) (subscription : Subscription) : Except Failure Store :=
  if (store.subscriptionOf? subscription.company).isSome then
    .error (.conflict ("Company " ++ subscription.company.hyphenated ++ " already has a subscription"))
  else .ok { store with
    subscriptions := upsert (fun new old => new.id == old.id) subscription store.subscriptions }

/-- The version after `version`; it overflows past the largest 64-bit word. -/
def nextVersion (version : Int) : Except Halt Int :=
  match Arith.within64 (version + 1) with
  | some next => .ok next
  | none => .error .overflow

/-- Writes a subscription read at `expectedVersion`, storing the next version; `false`, and
nothing written, if it is missing or its stored version differs. -/
def updateSubscription (store : Store) (subscription : Subscription) (expectedVersion : Int) :
    Except Halt (Bool × Store) :=
  match store.subscription? subscription.id with
  | some stored =>
    if stored.version == expectedVersion then do
      let next ← nextVersion expectedVersion
      pure (true, { store with subscriptions := store.subscriptions.map (fun old =>
        if old.id == subscription.id then { subscription with version := next } else old) })
    else .ok (false, store)
  | none => .ok (false, store)

/-- The subscriptions in one of `statuses` whose period ended before `before`. -/
def listExpiring (store : Store) (statuses : List SubscriptionStatus) (before : Moment) :
    List Subscription :=
  store.subscriptions.filter (fun subscription =>
    statuses.contains subscription.status && decide (subscription.periodEnd < before))

/-- The subscriptions with a change waiting, due by `dueBy` if given, by the end of their
period; of two with one end, the one stored first comes first. -/
def listWithPendingChanges (store : Store) (dueBy : Option Moment) : List Subscription :=
  (store.subscriptions.filter (fun subscription =>
      subscription.hasPendingChange &&
        (match dueBy with
          | some due => decide (subscription.periodEnd ≤ due)
          | none => true))).mergeSort
    (fun first second => decide (first.periodEnd ≤ second.periodEnd))

/-- Moves every subscription in one of `statuses` whose period ended before `cutoff` to `target`,
as updated at `now` with the next version; gives how many moved. -/
def updateExpiredToStatus (store : Store) (statuses : List SubscriptionStatus) (cutoff : Moment)
    (target : SubscriptionStatus) (now : Moment) : Except Halt (Nat × Store) := do
  let moves (subscription : Subscription) : Bool :=
    statuses.contains subscription.status && decide (subscription.periodEnd < cutoff)
  let moved ← store.subscriptions.mapM (fun subscription =>
    if moves subscription then do
      let next ← nextVersion subscription.version
      pure { subscription with status := target, updatedAt := now, version := next }
    else pure subscription)
  pure ((store.subscriptions.filter moves).length, { store with subscriptions := moved })

/-! ## Invoices -/

/-- The invoice with an id. -/
def invoice? (store : Store) (id : Uuid) : Option Invoice := store.invoices.find? (·.id == id)

/-- The invoice the provider knows by an id. -/
def invoiceByProviderId? (store : Store) (providerId : String) : Option Invoice :=
  store.invoices.find? (·.providerInvoiceId == some providerId)

/-- The pending invoices of a company. -/
def pendingOf (store : Store) (company : Uuid) : List Invoice :=
  store.invoices.filter (fun invoice => invoice.company == company && invoice.isPending)

/-- A pending invoice of a company. -/
def findPendingInvoice (store : Store) (company : Uuid) : Option Invoice :=
  (store.pendingOf company).head?

/-- Stores a new invoice under its id; a pending one is refused while the company has another. -/
def insertInvoice (store : Store) (invoice : Invoice) : Except Failure Store :=
  if invoice.isPending && !(store.pendingOf invoice.company).isEmpty then
    .error (.duplicatePendingInvoice invoice.company)
  else .ok { store with invoices := upsert (fun new old => new.id == old.id) invoice store.invoices }

/-- The invoices of a company, newest first; of two created at one instant, the one stored
later comes first. -/
def listInvoices (store : Store) (company : Uuid) : List Invoice :=
  (store.invoices.filter (·.company == company)).reverse.mergeSort
    (fun first second => decide (second.createdAt ≤ first.createdAt))

/-- Links an invoice to the provider's invoice; refused if another invoice has that provider
id, or if the invoice is missing. -/
def attachProviderInvoice (store : Store) (id : Uuid) (providerId url : String)
    (expiresAt : Option Moment) : Except Failure Store :=
  if store.invoices.any (fun invoice => invoice.id != id && invoice.providerInvoiceId == some providerId) then
    .error (.conflict ("Provider invoice " ++ providerId ++ " is already linked"))
  else if (store.invoice? id).isNone then
    .error (.notFound ("Invoice " ++ id.hyphenated ++ " not found"))
  else .ok { store with invoices := store.invoices.map (fun invoice =>
    if invoice.id == id then
      { invoice with providerInvoiceId := some providerId, invoiceUrl := some url, expiresAt := expiresAt }
    else invoice) }

/-- Moves a pending invoice to `target`; `false` if it is missing or no longer pending. A move
to `paid` needs the payment. -/
def transitionInvoice (store : Store) (id : Uuid) (target : InvoiceStatus) (payment : Option Payment) :
    Except Failure (Bool × Store) :=
  match store.invoice? id with
  | none => .ok (false, store)
  | some invoice =>
    if !invoice.isPending then .ok (false, store)
    else
      let moved : Option Invoice :=
        match target, payment with
        | .paid, some payment => some (invoice.applyPayment payment)
        | .paid, none => none
        | _, _ => some { invoice with status := target }
      match moved with
      | none => .error (.invalidInput "Paid transition needs payment details")
      | some moved =>
        .ok (true, { store with invoices := store.invoices.map (fun old => if old.id == id then moved else old) })

/-- Marks a pending invoice paid and writes the subscription the payment buys, in one step;
`false` if the invoice is missing or no longer pending, a concurrent-modification failure if
the subscription changed since it was read. -/
def settleInvoice (store : Store) (id : Uuid) (payment : Payment) (write : SubscriptionWrite) :
    Except Halt (Bool × Store) :=
  match store.invoice? id with
  | none => .ok (false, store)
  | some invoice =>
    if !invoice.isPending then .ok (false, store)
    else do
      let subscription ← match write with
        | .insert subscription =>
          if (store.subscriptionOf? subscription.company).isSome then
            throw (.failed (.concurrentModification
              ("company " ++ subscription.company.hyphenated ++ " gained a subscription")))
          else pure { subscription with version := 0 }
        | .update subscription expectedVersion =>
          if (store.subscription? subscription.id).map (·.version) == some expectedVersion then do
            pure { subscription with version := ← nextVersion expectedVersion }
          else throw (.failed (.concurrentModification
            ("subscription " ++ subscription.id.hyphenated ++ " changed")))
      let invoices := store.invoices.map (fun old =>
        if old.id == id then { old.applyPayment payment with subscription := some subscription.id } else old)
      pure (true, { store with
        invoices := invoices,
        subscriptions := upsert (fun new old => new.id == old.id) subscription store.subscriptions })

/-- The pending invoices created before `before`. -/
def listStalePendingInvoices (store : Store) (before : Moment) : List Invoice :=
  store.invoices.filter (fun invoice => invoice.isPending && decide (invoice.createdAt < before))

/-- The companies with more than one pending invoice, with their count, in the order of their
first pending invoice. -/
def companiesWithMultiplePendingInvoices (store : Store) : List (Uuid × Int) :=
  let companies := (store.invoices.filter (·.isPending)).map (·.company)
  let distinct := companies.foldl (fun seen company => if seen.contains company then seen else seen ++ [company]) []
  (distinct.map (fun company => (company, (companies.count company : Int)))).filter (fun entry => entry.2 > 1)

/-- The paid invoices that carry no payment time. -/
def paidInvoicesMissingPaidAt (store : Store) : List Invoice :=
  store.invoices.filter (fun invoice => invoice.status == .paid && invoice.paidAt.isNone)

/-! ## Events -/

/-- Appends an event to the log. -/
def appendEvent (store : Store) (event : Event) : Store := { store with events := store.events ++ [event] }

/-- The events of a company, newest first. -/
def listEvents (store : Store) (company : Uuid) : List Event :=
  (store.events.filter (·.company == company)).reverse

end Store

end SeatBilling
