import SeatBilling.Ledger.Status
import SeatBilling.Ident.Uuid
import SeatBilling.Time.Moment

/-!
# Subscriptions

A company's subscription: its plan, status, seat cap and current period, and the change
waiting for the end of the period (a downgrade, a seat decrease, or both). The version
counts the writes to the subscription; a write names the version it read, so that two
writers cannot both win.
-/

namespace SeatBilling

open SeatBilling.Time

/-- A company's subscription. -/
structure Subscription where
  id : Uuid
  company : Uuid
  plan : String
  status : SubscriptionStatus
  /-- The seat cap in force. -/
  maxSeats : Int
  /-- A seat decrease waiting for the end of the period. -/
  pendingMaxSeats : Option Int
  /-- A downgrade waiting for the end of the period. -/
  pendingPlan : Option String
  periodStart : Moment
  periodEnd : Moment
  createdAt : Moment
  updatedAt : Moment
  version : Int
  deriving DecidableEq, Repr

namespace Subscription

/-- Whether the company may use the product at `now`: the subscription has not expired and
its period has not ended. -/
def grantsAccess (subscription : Subscription) (now : Moment) : Bool :=
  !subscription.status.isTerminal && decide (now < subscription.periodEnd)

/-- Whether a downgrade or a seat decrease is waiting. -/
def hasPendingChange (subscription : Subscription) : Bool :=
  subscription.pendingPlan.isSome || subscription.pendingMaxSeats.isSome

/-- The subscription with nothing waiting. -/
def clearPending (subscription : Subscription) : Subscription :=
  { subscription with pendingPlan := none, pendingMaxSeats := none }

end Subscription

/-- How settling an invoice writes the company's subscription: a new one, or a new state of
the current one, read at `expectedVersion`. -/
inductive SubscriptionWrite where
  | insert (subscription : Subscription)
  | update (subscription : Subscription) (expectedVersion : Int)
  deriving DecidableEq, Repr

/-- The subscription a write stores. -/
def SubscriptionWrite.subscription : SubscriptionWrite → Subscription
  | .insert subscription => subscription
  | .update subscription _ => subscription

end SeatBilling
