import SeatBilling.Invoicing
import SeatBilling.Catalog.Queries
import SeatBilling.Ledger.PaidEffect

/-!
# The subscription ledger

Each company has at most one subscription, and every change to it goes through the
operations here:

- a trial starts only for a company without a subscription;
- a checkout, an upgrade and a billable seat increase create an invoice, and change the
  subscription only when that invoice is paid (`settle`);
- a downgrade and a seat decrease wait, as a pending change, for the end of the period,
  when `commitPendingChange` checks the live headcount against the new seat cap;
- cancelling keeps access until the period ends; `expireLapsed` moves lapsed
  subscriptions on.

Every write names the version it read, and a write that finds another version in the store
fails as a concurrent modification.
-/

namespace SeatBilling.Ledger

open SeatBilling.Time

/-- A subscription as its company's owner sees it. -/
structure SubscriptionView where
  subscription : Subscription
  plan : Plan
  pendingPlan : Option Plan
  features : List Feature
  activeEmployees : Int
  hasAccess : Bool
  deriving Repr

/-- What a request for a new seat cap did. -/
inductive SeatChange where
  /-- An invoice for the extra seats was created. -/
  | invoiced (invoice : Invoice)
  /-- The increase cost nothing and took effect at once. -/
  | applied (subscription : Subscription)
  /-- The decrease waits for the end of the period. -/
  | scheduled (subscription : Subscription)
  /-- A waiting decrease was withdrawn. -/
  | pendingCleared (subscription : Subscription)
  deriving Repr

/-- What a commit of a waiting change did. -/
inductive CommitOutcome where
  | committed (subscription : Subscription)
  /-- More active employees than the new seat cap; the change stays waiting. -/
  | refused (active : Int) (maxSeats : Int)
  | notDue
  | nothingPending
  /-- An expired subscription never takes a waiting change. -/
  | notEligible (status : SubscriptionStatus)
  deriving Repr

/-- What settling a paid invoice did. -/
inductive SettleOutcome where
  | applied (subscription : Subscription)
  /-- The invoice had already left `pending`; nothing changed. -/
  | alreadyProcessed (invoice : Invoice)
  deriving Repr

/-- The subscriptions one expiry pass moved, by transition. -/
structure ExpiryCounts where
  cancelledExpired : Nat
  graceExpired : Nat
  movedToPastDue : Nat
  deriving Repr, DecidableEq

/-- All the subscriptions an expiry pass moved. -/
def ExpiryCounts.total (counts : ExpiryCounts) : Nat :=
  counts.cancelledExpired + counts.graceExpired + counts.movedToPastDue

/-- How many settling attempts a paid invoice gets when its subscription keeps changing. -/
def settleAttempts : Nat := 3

/-- The subscription of a company, if any. -/
def subscriptionOf (company : Uuid) : BillingM (Option Subscription) :=
  Calls.getSubscriptionByCompany company

/-- The subscription of a company, or not found. -/
def requireSubscription (company : Uuid) : BillingM Subscription := do
  match ← subscriptionOf company with
  | some subscription => pure subscription
  | none => failWith (.notFound ("No subscription for company " ++ company.hyphenated))

/-- Writes `next` over `current`; a concurrent modification if the store holds another
version. -/
def save (current next : Subscription) : BillingM Subscription := do
  if !(← Calls.updateSubscription next current.version) then
    failWith (.concurrentModification
      ("subscription " ++ current.id.hyphenated ++ " changed during update"))
  let version ← orOverflow (Arith.within64 (current.version + 1))
  pure { next with version := version }

/-- The price of a plan for a number of seats. -/
def priceOf (plan : Plan) (seats : Int) : BillingM Int := orOverflow (plan.priceFor? seats)

/-- A seat count of at least one, or invalid input. -/
def requirePositiveSeats (seats : Int) : BillingM Unit := do
  if seats < 1 then failWith (.invalidInput "Seat count must be at least 1")

/-- Starts a free trial on a plan for a company without a subscription. -/
def startTrial (company : Uuid) (planId : String) : BillingM Subscription := do
  let plan ← Catalog.getPurchasablePlan planId
  if (← subscriptionOf company).isSome then
    failWith (.conflict "Company already has a subscription")
  let at_ ← now
  let settings ← config
  let id ← freshId
  let trialEnd ← orOverflow (at_.shift? settings.trial)
  let subscription : Subscription :=
    { id := id, company := company, plan := plan.id, status := .trial,
      maxSeats := plan.maxSeatsIncluded, pendingMaxSeats := none, pendingPlan := none,
      periodStart := at_, periodEnd := trialEnd, createdAt := at_, updatedAt := at_, version := 0 }
  Calls.insertSubscription subscription
  EventLog.record company .trialStarted .owner (some subscription.id) none
    (.obj [("plan_id", .str plan.id)]) at_
  pure subscription

/-- Checks a plan purchase or a renewal and prices it. Allowed with no subscription and from
every status but `active`, where only a renewal of the same plan with nothing waiting is. -/
def checkoutRequest (company : Uuid) (planId : String) (seats : Option Int) : BillingM InvoiceRequest := do
  let plan ← Catalog.getPurchasablePlan planId
  let seats := seats.getD plan.maxSeatsIncluded
  requirePositiveSeats seats
  let current ← subscriptionOf company
  if let some subscription := current then
    if subscription.status == .active then
      if subscription.plan != plan.id then
        failWith (.invalidPlanChange "Active subscriptions change plan through upgrade or downgrade")
      if subscription.hasPendingChange then
        failWith (.conflict "Cancel the scheduled change before renewing")
    let active ← Calls.countActive company
    if active > seats then failWith (.seatLimitExceeded active seats)
  let amount ← priceOf plan seats
  pure
    { company := company, subscription := current.map (·.id), purpose := .checkout,
      plan := plan.id, seats := seats, amount := amount,
      description := plan.name ++ " plan, " ++ toString seats ++ " seats" }

/-- Bills a plan purchase or a renewal, once `checkoutRequest` allows it. -/
def checkout (company : Uuid) (planId : String) (seats : Option Int) : BillingM Invoice := do
  Invoicing.create (← checkoutRequest company planId seats)

/-- Bills a move to a strictly higher tier, applied when the invoice is paid. -/
def upgrade (company : Uuid) (planId : String) : BillingM Invoice := do
  let target ← Catalog.getPurchasablePlan planId
  let subscription ← requireSubscription company
  if !(subscription.status == .active || subscription.status == .trial) then
    failWith (.subscriptionInactive ("Cannot upgrade a " ++ subscription.status.name ++ " subscription"))
  let currentPlan ← Catalog.getPlan subscription.plan
  if !target.isHigherTierThan currentPlan then
    failWith (.invalidPlanChange ("Cannot upgrade from " ++ currentPlan.name ++ " to " ++ target.name ++
      " - use the downgrade flow instead"))
  let seats := max subscription.maxSeats target.maxSeatsIncluded
  let amount ← priceOf target seats
  Invoicing.create
    { company := company, subscription := some subscription.id, purpose := .upgrade,
      plan := target.id, seats := seats, amount := amount,
      description := "Upgrade to " ++ target.name ++ " plan, " ++ toString seats ++ " seats" }

/-- Schedules a move to a lower or equal tier for the end of the current period. -/
def downgrade (company : Uuid) (planId : String) : BillingM Subscription := do
  let target ← Catalog.getPurchasablePlan planId
  let subscription ← requireSubscription company
  if subscription.status != .active then
    failWith (.subscriptionInactive
      ("Cannot schedule a downgrade on a " ++ subscription.status.name ++ " subscription"))
  if target.id == subscription.plan then
    failWith (.invalidPlanChange ("Already on the " ++ target.name ++ " plan"))
  let currentPlan ← Catalog.getPlan subscription.plan
  if target.isHigherTierThan currentPlan then
    failWith (.invalidPlanChange ("Cannot downgrade from " ++ currentPlan.name ++ " to " ++ target.name ++
      " - use the upgrade flow instead"))
  let at_ ← now
  let saved ← save subscription { subscription with pendingPlan := some target.id, updatedAt := at_ }
  EventLog.record company .downgradeScheduled .owner (some saved.id) none
    (.obj [("from_plan", .str currentPlan.id), ("to_plan", .str target.id)]) at_
  pure saved

/-- Records a change of the seat cap, with the cap before it. -/
def recordSeatEvent (subscription : Subscription) (kind : EventKind) (previousSeats : Int)
    (at_ : Moment) : BillingM Unit :=
  EventLog.record subscription.company kind .owner (some subscription.id) none
    (.obj [("max_seats", .int subscription.maxSeats),
      ("pending_max_seats", Json.ofOptInt subscription.pendingMaxSeats),
      ("previous_seats", .int previousSeats)]) at_

/-- Asks for a new seat cap: an increase is billed, or applied at once when it costs nothing;
a decrease waits for the end of the period; asking for the current cap withdraws a waiting
decrease. -/
def changeSeats (company : Uuid) (seats : Int) : BillingM SeatChange := do
  requirePositiveSeats seats
  let subscription ← requireSubscription company
  if subscription.status != .active then
    failWith (.subscriptionInactive
      ("Cannot change seats on a " ++ subscription.status.name ++ " subscription"))
  let at_ ← now
  if seats > subscription.maxSeats then
    let plan ← Catalog.getPlan subscription.plan
    let cost ← orOverflow (Arith.within64 ((← priceOf plan seats) - (← priceOf plan subscription.maxSeats)))
    if cost > 0 then
      let added ← orOverflow (Arith.within32 (seats - subscription.maxSeats))
      let invoice ← Invoicing.create
        { company := company, subscription := some subscription.id, purpose := .seatChange,
          plan := subscription.plan, seats := seats, amount := cost,
          description := toString added ++ " additional seats on the " ++ plan.name ++ " plan" }
      return .invoiced invoice
    let saved ← save subscription
      { subscription with maxSeats := seats, pendingMaxSeats := none, updatedAt := at_ }
    recordSeatEvent saved .seatsIncreased subscription.maxSeats at_
    return .applied saved
  if seats < subscription.maxSeats then
    let saved ← save subscription { subscription with pendingMaxSeats := some seats, updatedAt := at_ }
    recordSeatEvent saved .seatDecreaseScheduled subscription.maxSeats at_
    return .scheduled saved
  if subscription.pendingMaxSeats.isNone then
    failWith (.invalidInput ("Subscription already has " ++ toString seats ++ " seats"))
  let saved ← save subscription { subscription with pendingMaxSeats := none, updatedAt := at_ }
  recordSeatEvent saved .pendingChangeCancelled subscription.maxSeats at_
  return .pendingCleared saved

/-- Cancels at the end of the period; access lasts until then. A cancelled subscription stays
as it is; an expired one cannot be cancelled. -/
def cancel (company : Uuid) : BillingM Subscription := do
  let subscription ← requireSubscription company
  match subscription.status with
  | .cancelled => return subscription
  | .expired => failWith (.conflict "Subscription has already expired")
  | _ => pure ()
  let at_ ← now
  let saved ← save subscription { subscription.clearPending with status := .cancelled, updatedAt := at_ }
  EventLog.record company .subscriptionCancelled .owner (some saved.id) none
    (.obj [("previous_status", .str subscription.status.name)]) at_
  pure saved

/-- Withdraws a waiting downgrade and seat decrease. -/
def cancelScheduledChange (company : Uuid) : BillingM Subscription := do
  let subscription ← requireSubscription company
  if !subscription.hasPendingChange then
    failWith (.notFound "No scheduled change to cancel")
  let at_ ← now
  let saved ← save subscription { subscription.clearPending with updatedAt := at_ }
  EventLog.record company .pendingChangeCancelled .owner (some saved.id) none
    (.obj [("pending_max_seats", Json.ofOptInt subscription.pendingMaxSeats),
      ("pending_plan_id", Json.ofOptStr subscription.pendingPlan)]) at_
  pure saved

/-- A company's subscription with its plans, features and headcount. -/
def view (company : Uuid) : BillingM SubscriptionView := do
  let subscription ← requireSubscription company
  let plan ← Catalog.getPlan subscription.plan
  let pendingPlan ← match subscription.pendingPlan with
    | some id => some <$> Catalog.getPlan id
    | none => pure none
  let active ← Calls.countActive company
  let at_ ← now
  pure {
    subscription := subscription, plan := plan, pendingPlan := pendingPlan,
    features := plan.features, activeEmployees := active, hasAccess := subscription.grantsAccess at_ }

/-- The event a paid invoice records about the subscription it bought: a checkout whose new
period starts where the old one ended is a renewal. -/
def paidEventKind (invoice : Invoice) (previous : Option Subscription) (subscription : Subscription) :
    EventKind :=
  match invoice.purpose with
  | .checkout =>
    match previous with
    | some previous =>
      if previous.periodEnd.sameInstant subscription.periodStart then .subscriptionRenewed
      else .subscriptionActivated
    | none => .subscriptionActivated
  | .upgrade => .planUpgraded
  | .seatChange => .seatsIncreased

/-- Records what a paid invoice did to the subscription. -/
def recordPaidEffect (invoice : Invoice) (previous : Option Subscription) (subscription : Subscription)
    (paidAt : Moment) : BillingM Unit :=
  EventLog.record subscription.company (paidEventKind invoice previous subscription) .provider
    (some subscription.id) (some invoice.id)
    (.obj [("max_seats", .int subscription.maxSeats), ("plan_id", .str subscription.plan),
      ("previous_plan", Json.ofOptStr (previous.map (·.plan)))]) paidAt

/-- The invoice with an id, or not found. -/
def loadInvoice (id : Uuid) : BillingM Invoice := do
  match ← Calls.getInvoice id with
  | some invoice => pure invoice
  | none => failWith (.notFound ("Invoice " ++ id.hyphenated ++ " not found"))

/-- One settling attempt; `onFailure` decides what a failure to mark the invoice paid leads to. -/
def settleOnce (id : Uuid) (payment : Payment) (onFailure : Failure → BillingM SettleOutcome) :
    BillingM SettleOutcome := do
  let invoice ← loadInvoice id
  if !invoice.isPending then return .alreadyProcessed invoice
  let current ← subscriptionOf invoice.company
  let newId ← if current.isNone then freshId else pure Uuid.nil
  let settings ← config
  let write ← orOverflow (paidEffect newId invoice current payment.paidAt (← now) settings.period)
  match ← attempt (Invoicing.markPaid id payment write) with
  | .ok true =>
    recordPaidEffect invoice current write.subscription payment.paidAt
    return .applied write.subscription
  | .ok false => return .alreadyProcessed (← loadInvoice id)
  | .error failure => onFailure failure

/-- One settling attempt, and `retries` more while the subscription keeps changing under it. -/
def settleWithin (id : Uuid) (payment : Payment) : Nat → BillingM SettleOutcome
  | 0 => settleOnce id payment failWith
  | retries + 1 => settleOnce id payment fun failure =>
    match failure with
    | .concurrentModification _ => settleWithin id payment retries
    | other => failWith other

/-- Marks a paid invoice paid and applies what it buys, as one unit; settling it again
changes nothing. -/
def settle (id : Uuid) (payment : Payment) : BillingM SettleOutcome := do
  let _ ← loadInvoice id
  settleWithin id payment (settleAttempts - 1)

/-- The subscription with an id, or not found. -/
def requireSubscriptionId (id : Uuid) : BillingM Subscription := do
  match ← Calls.getSubscription id with
  | some subscription => pure subscription
  | none => failWith (.notFound ("Subscription " ++ id.hyphenated ++ " not found"))

/-- Commits a waiting plan or seat change once its period has ended, if the live headcount
fits the new seat cap; otherwise the change stays waiting. Only an active subscription rolls
into a new period. -/
def commitPendingChange (id : Uuid) : BillingM CommitOutcome := do
  let _ ← requireSubscriptionId id
  let subscription ← requireSubscriptionId id
  if !subscription.hasPendingChange then return .nothingPending
  if subscription.status == .expired then return .notEligible subscription.status
  let at_ ← now
  if at_ < subscription.periodEnd then return .notDue
  let targetPlan ← Catalog.getPlan (subscription.pendingPlan.getD subscription.plan)
  let newSeats := match subscription.pendingMaxSeats, subscription.pendingPlan with
    | some seats, _ => seats
    | none, some _ => targetPlan.maxSeatsIncluded
    | none, none => subscription.maxSeats
  let active ← Calls.countActive subscription.company
  if active > newSeats then
    emit .warn "hrcore_billing::subscriptions" "Refusing pending change: active employees exceed new seat cap"
      [("company_id", subscription.company.hyphenated), ("subscription_id", subscription.id.hyphenated),
        ("active_employees", toString active), ("new_max_seats", toString newSeats),
        ("pending_plan_id", Log.optionalText subscription.pendingPlan)]
    EventLog.record subscription.company .pendingChangeRefused .scheduler (some subscription.id) none
      (.obj [("active_employees", .int active), ("new_max_seats", .int newSeats),
        ("pending_plan_id", Json.ofOptStr subscription.pendingPlan)]) at_
    return .refused active newSeats
  let settings ← config
  let moved := { subscription.clearPending with plan := targetPlan.id, maxSeats := newSeats }
  let moved ← if subscription.status == .active then do
      let periodEnd ← orOverflow (subscription.periodEnd.shift? settings.period)
      pure { moved with periodStart := subscription.periodEnd, periodEnd := periodEnd }
    else pure moved
  let saved ← save subscription { moved with updatedAt := at_ }
  EventLog.record subscription.company .pendingChangeCommitted .scheduler (some saved.id) none
    (.obj [("from_plan", .str subscription.plan), ("from_seats", .int subscription.maxSeats),
      ("to_plan", .str saved.plan), ("to_seats", .int saved.maxSeats)]) at_
  emit .info "hrcore_billing::subscriptions" "Committed pending subscription change"
    [("company_id", saved.company.hyphenated), ("from_plan", subscription.plan), ("to_plan", saved.plan),
      ("max_seats", toString saved.maxSeats), ("period_end", saved.periodEnd.displayText)]
  return .committed saved

/-- The subscriptions whose waiting change is due now. -/
def duePendingChanges : BillingM (List Subscription) := do
  Calls.listWithPendingChanges (some (← now))

/-- Moves lapsed subscriptions on: cancelled to expired, trial and active to past due, and
anything unpaid beyond the grace period to expired. -/
def expireLapsed : BillingM ExpiryCounts := do
  let at_ ← now
  let candidates ← Calls.listExpiring [.trial, .active, .pastDue, .cancelled] at_
  if candidates.isEmpty then return ⟨0, 0, 0⟩
  let settings ← config
  let graceCutoff ← orOverflow (at_.unshift? settings.gracePeriod)
  let cancelledExpired ← Calls.updateExpiredToStatus [.cancelled] at_ .expired at_
  let graceExpired ← Calls.updateExpiredToStatus [.trial, .active, .pastDue] graceCutoff .expired at_
  let movedToPastDue ← Calls.updateExpiredToStatus [.trial, .active] at_ .pastDue at_
  if cancelledExpired + graceExpired + movedToPastDue > 0 then
    emit .info "hrcore_billing::subscriptions" "Applied subscription expiry transitions"
      [("cancelled_expired", toString cancelledExpired), ("grace_expired", toString graceExpired),
        ("moved_to_past_due", toString movedToPastDue)]
  return ⟨cancelledExpired, graceExpired, movedToPastDue⟩

end SeatBilling.Ledger
