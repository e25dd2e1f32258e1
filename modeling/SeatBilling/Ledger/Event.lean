import SeatBilling.Json.Value
import SeatBilling.Ident.Uuid
import SeatBilling.Time.Moment

/-!
# Billing events

The log of what happened to a company's subscription and invoices, and who made it happen.
Each entry names its kind, its actor, the company and, where there is one, the subscription
and the invoice, and carries the details of the change as a JSON object.
-/

namespace SeatBilling

open SeatBilling.Time

/-- What a billing event records. -/
inductive EventKind where
  | trialStarted
  | subscriptionActivated
  | subscriptionRenewed
  | planUpgraded
  | seatsIncreased
  | downgradeScheduled
  | seatDecreaseScheduled
  | pendingChangeCancelled
  | pendingChangeCommitted
  | pendingChangeRefused
  | subscriptionCancelled
  | invoiceCreated
  | invoicePaid
  | invoiceExpired
  | invoiceCancelled
  deriving DecidableEq, Repr

namespace EventKind

/-- Every kind, in the order they are declared. -/
def all : List EventKind :=
  [.trialStarted, .subscriptionActivated, .subscriptionRenewed, .planUpgraded, .seatsIncreased,
    .downgradeScheduled, .seatDecreaseScheduled, .pendingChangeCancelled, .pendingChangeCommitted,
    .pendingChangeRefused, .subscriptionCancelled, .invoiceCreated, .invoicePaid, .invoiceExpired,
    .invoiceCancelled]

/-- The spelling of a kind. -/
def name : EventKind → String
  | .trialStarted => "trial_started"
  | .subscriptionActivated => "subscription_activated"
  | .subscriptionRenewed => "subscription_renewed"
  | .planUpgraded => "plan_upgraded"
  | .seatsIncreased => "seats_increased"
  | .downgradeScheduled => "downgrade_scheduled"
  | .seatDecreaseScheduled => "seat_decrease_scheduled"
  | .pendingChangeCancelled => "pending_change_cancelled"
  | .pendingChangeCommitted => "pending_change_committed"
  | .pendingChangeRefused => "pending_change_refused"
  | .subscriptionCancelled => "subscription_cancelled"
  | .invoiceCreated => "invoice_created"
  | .invoicePaid => "invoice_paid"
  | .invoiceExpired => "invoice_expired"
  | .invoiceCancelled => "invoice_cancelled"

/-- The kind of a spelling, if it is one. -/
def parse? (text : String) : Option EventKind := all.find? (·.name == text)

end EventKind

/-- Who caused an event. -/
inductive Actor where
  | owner
  | provider
  | scheduler
  | system
  deriving DecidableEq, Repr

namespace Actor

/-- The spelling of an actor. -/
def name : Actor → String
  | .owner => "owner"
  | .provider => "provider"
  | .scheduler => "scheduler"
  | .system => "system"

/-- The actor of a spelling; any text but the first three spellings names the system. -/
def parse (text : String) : Actor :=
  if text == "owner" then .owner
  else if text == "provider" then .provider
  else if text == "scheduler" then .scheduler
  else .system

end Actor

/-- One entry of the billing event log. -/
structure Event where
  id : Uuid
  company : Uuid
  subscription : Option Uuid
  invoice : Option Uuid
  kind : EventKind
  actor : Actor
  data : Json
  createdAt : Moment
  deriving Repr

end SeatBilling
