import SeatBilling.Access.Snapshot
import SeatBilling.Catalog.Queries

/-!
# Access decisions

Whether a company may use the product, a feature, or one more seat, decided from its
subscription as the ledger holds it now. The checks that a request runs first consult the
token's snapshot, if any; when the snapshot alone allows the request the ledger is not asked.
-/

namespace SeatBilling.Access

open SeatBilling.Time

/-- A company's access as the ledger holds it: allowed or not, and the status, plan and end
of access of its subscription, if it has one. -/
structure Decision where
  allowed : Bool
  status : Option SubscriptionStatus
  plan : Option String
  accessUntil : Option Moment
  deriving Repr

/-- The subscription of a company, if it grants access now. -/
def liveSubscription (company : Uuid) : BillingM (Option Subscription) := do
  let at_ ← now
  let found ← Calls.getSubscriptionByCompany company
  return found.filter (·.grantsAccess at_)

/-- A company's access as the ledger holds it. -/
def accessOf (company : Uuid) : BillingM Decision := do
  let at_ ← now
  match ← Calls.getSubscriptionByCompany company with
  | some subscription =>
    return ⟨subscription.grantsAccess at_, some subscription.status, some subscription.plan,
      some subscription.periodEnd⟩
  | none => return ⟨false, none, none, none⟩

/-- Whether the company's plan includes a feature: `false` without a usable subscription, and
not found for an unknown feature. -/
def hasFeature (company : Uuid) (code : String) : BillingM Bool := do
  match ← liveSubscription company with
  | some subscription => Catalog.hasFeature subscription.plan code
  | none =>
    let _ ← Catalog.ensureFeature code
    return false

/-- Whether the company may add an employee: fewer active employees than seats. -/
def canAddEmployee (company : Uuid) : BillingM Bool := do
  let some subscription ← liveSubscription company | return false
  let active ← Calls.countActive company
  return active < subscription.maxSeats

/-- The failure of a request from a company without a usable subscription. -/
def inactive : Failure := .subscriptionInactive "An active subscription is required"

/-- Requires a usable subscription, unless the snapshot alone allows the request. -/
def requireActive (company : Uuid) (snapshot : Option Snapshot) : BillingM Unit := do
  if let some snapshot := snapshot then
    if snapshot.fastCheck (← now) == .allow then return
  if (← liveSubscription company).isNone then failWith inactive

/-- Requires a usable subscription whose plan includes a feature, unless the snapshot alone
allows the feature. -/
def requireFeature (company : Uuid) (code : String) (snapshot : Option Snapshot) : BillingM Unit := do
  if let some snapshot := snapshot then
    if snapshot.fastCheckFeature code (← now) == .allow then return
  let some subscription ← liveSubscription company | failWith inactive
  if !(← Catalog.hasFeature subscription.plan code) then failWith (.featureNotIncluded code)

/-- Requires a usable subscription with a free seat. -/
def requireSeatAvailable (company : Uuid) : BillingM Unit := do
  let some subscription ← liveSubscription company | failWith inactive
  let active ← Calls.countActive company
  if active ≥ subscription.maxSeats then failWith (.seatLimitExceeded active subscription.maxSeats)

end SeatBilling.Access
