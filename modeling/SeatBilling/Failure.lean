import SeatBilling.Ident.Uuid

/-!
# Failures

Why an operation of the billing core did not succeed. Each failure has a kind, which the
HTTP layer maps to a status code, and a message; the wording of every message is in
`Failure.message`. Failures that may go away when the same operation is tried again later
(the store, the payment provider, a time limit, a concurrent writer) are transient.
-/

namespace SeatBilling

/-- Why an operation of the billing core failed. -/
inductive Failure where
  | notFound (what : String)
  | conflict (what : String)
  | duplicatePendingInvoice (company : Uuid)
  | invalidPlanChange (why : String)
  | featureNotIncluded (code : String)
  | seatLimitExceeded (active : Int) (maxSeats : Int)
  | subscriptionInactive (why : String)
  | webhookTokenInvalid
  | concurrentModification (what : String)
  | database (what : String)
  | providerUnavailable (what : String)
  | providerRejected (what : String)
  | timedOut (what : String)
  | config (what : String)
  | invalidInput (what : String)
  | internal (what : String)
  deriving DecidableEq, Repr

namespace Failure

/-- The message of a failure. -/
def message : Failure → String
  | .notFound what => "Not found: " ++ what
  | .conflict what => "Conflict: " ++ what
  | .duplicatePendingInvoice company =>
    "A pending invoice already exists for company " ++ company.hyphenated
  | .invalidPlanChange why => "Invalid plan change: " ++ why
  | .featureNotIncluded code => "Feature '" ++ code ++ "' is not included in the current plan"
  | .seatLimitExceeded active maxSeats =>
    "Seat limit reached: " ++ toString active ++ " active employees for " ++ toString maxSeats ++ " seats"
  | .subscriptionInactive why => "Subscription is not usable: " ++ why
  | .webhookTokenInvalid => "Invalid webhook callback token"
  | .concurrentModification what => "Concurrent modification: " ++ what
  | .database what => "Database error: " ++ what
  | .providerUnavailable what => "Payment provider unavailable: " ++ what
  | .providerRejected what => "Payment provider rejected the request: " ++ what
  | .timedOut what => "Timed out: " ++ what
  | .config what => "Configuration error: " ++ what
  | .invalidInput what => "Invalid input: " ++ what
  | .internal what => "Internal error: " ++ what

/-- The name of a failure's kind. -/
def kindName : Failure → String
  | .notFound _ => "NotFound"
  | .conflict _ => "Conflict"
  | .duplicatePendingInvoice _ => "DuplicatePendingInvoice"
  | .invalidPlanChange _ => "InvalidPlanChange"
  | .featureNotIncluded _ => "FeatureNotIncluded"
  | .seatLimitExceeded _ _ => "SeatLimitExceeded"
  | .subscriptionInactive _ => "SubscriptionInactive"
  | .webhookTokenInvalid => "WebhookTokenInvalid"
  | .concurrentModification _ => "ConcurrentModification"
  | .database _ => "Database"
  | .providerUnavailable _ => "Provider"
  | .providerRejected _ => "ProviderRejected"
  | .timedOut _ => "Timeout"
  | .config _ => "Config"
  | .invalidInput _ => "InvalidInput"
  | .internal _ => "Internal"

/-- Whether the same operation may succeed when tried again later. -/
def isTransient : Failure → Bool
  | .database _ | .providerUnavailable _ | .timedOut _ | .concurrentModification _ => true
  | _ => false

/-- Whether the failure says that something was not found. -/
def isNotFound : Failure → Bool
  | .notFound _ => true
  | _ => false

end Failure

/-- Why an operation stopped short: a failure it reports; a timed section that ran out of
time; or arithmetic that left the range of its words or of the calendar. -/
inductive Halt where
  /-- The operation reports a failure. -/
  | failed (failure : Failure)
  /-- A timed section ran out of time. -/
  | elapsed
  /-- Arithmetic left the range of its words or of the calendar. -/
  | overflow
  deriving DecidableEq, Repr

end SeatBilling
