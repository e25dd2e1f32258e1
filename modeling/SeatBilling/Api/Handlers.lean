import SeatBilling.Api.Error
import SeatBilling.Api.Extract
import SeatBilling.Auth.Token
import SeatBilling.Documents

/-!
# Handlers of the HTTP interface

Each endpoint runs one operation of the billing core for the company of the caller's token
and answers its value as JSON with status 200, or the error that reports its failure. Reads
are open to every member of a company; whatever creates an invoice or changes the
subscription is for the company's owner only, and the invariant report for platform
administrators only.

The payment provider's callback is authenticated by its own token, not by an access token.
It answers 200 for every callback it could take in, 503 for a transient failure (so that the
provider retries) and the error of the failure otherwise.
-/

namespace SeatBilling.Api

open SeatBilling.Json SeatBilling.Documents

/-- The role of a company's owner. -/
def ownerRole : String := "owner"

/-- The role of a platform administrator. -/
def platformAdminRole : String := "platform_admin"

/-- Refuses a caller whose role is not `role`. -/
def requireRole (role : String) (caller : Auth.Claims) : Except AuthError Unit :=
  if caller.role == role then .ok () else .error .insufficientPermissions

/-- The response of an operation of the billing core: its value written as JSON with status
200, or the error that reports its failure. A value that cannot be written stops the
request like an overflow. -/
def respond {α : Type} (action : BillingM α) (write : α → Option Json) : BillingM Response := do
  match ← attempt action with
  | .ok value =>
    match write value with
    | some document => return Response.ofJson 200 document
    | none => throw .overflow
  | .error failure => return (ApiError.ofFailure failure).response

/-- Runs `action` for an owner only. -/
def forOwner (caller : Auth.Claims) (action : BillingM Response) : BillingM Response :=
  match requireRole ownerRole caller with
  | .ok () => action
  | .error refusal => return refusal.toApiError.response

/-! ## Request bodies -/

/-- A request for a plan. -/
structure PlanChoice where
  plan : String

/-- A request to buy a plan, with a seat count or the plan's own. -/
structure PlanOrder where
  plan : String
  seats : Option Int

/-- A request for a seat count. -/
structure SeatCount where
  seats : Int

/-- The field that names a plan. -/
def planField {σ : Type} (isSet : σ → Bool) (put : σ → String → σ) : Json.Field σ :=
  ⟨"plan_id", [], true, isSet, fun draft => do return put draft (← readText), false⟩

/-- How a request for a plan is read. -/
def planChoiceRecord : Record (Option String) PlanChoice where
  name := "PlanChangeRequest"
  fields := [planField Option.isSome fun _ plan => some plan]
  empty := none
  finish draft := ⟨draft.getD ""⟩

/-- How a request to buy a plan is read. -/
def planOrderRecord : Record (Option String × Option (Option Int)) PlanOrder where
  name := "CheckoutRequest"
  fields :=
    [ planField (·.1.isSome) fun draft plan => (some plan, draft.2),
      ⟨"seats", [], false, (·.2.isSome), fun draft => do return (draft.1, some (← readOptional readInt32)), false⟩ ]
  empty := (none, none)
  finish draft := ⟨draft.1.getD "", draft.2.join⟩

/-- How a request for a seat count is read. -/
def seatCountRecord : Record (Option Int) SeatCount where
  name := "ChangeSeatsRequest"
  fields := [⟨"seats", [], true, Option.isSome, fun _ => do return some (← readInt32), false⟩]
  empty := none
  finish draft := ⟨draft.getD 0⟩

/-- Runs `action` on the body of a request, or rejects the request. -/
def withBody {σ α : Type} (record : Record σ α) (request : Request) (action : α → BillingM Response) :
    BillingM Response :=
  match jsonBody record request with
  | .ok body => action body
  | .error rejection => return rejection.response

/-! ## Endpoints -/

/-- The version the health check reports. -/
def serviceVersion : String := "0.4.0"

/-- `GET /health`. -/
def health : Response :=
  Response.ofJson 200 (.obj [("status", .str "ok"), ("version", .str serviceVersion)])

/-- `GET /api/v1/billing/plans`: the plans on sale. -/
def plans : BillingM Response :=
  respond Catalog.listActivePlans fun plans => some (.arr (plans.map planJson))

/-- `GET /billing/subscription`. -/
def mySubscription (caller : Auth.Claims) : BillingM Response :=
  respond (Ledger.view caller.company) viewJson

/-- `GET /billing/invoices`. -/
def invoices (caller : Auth.Claims) : BillingM Response :=
  respond (Invoicing.invoicesOf caller.company) (listJson invoiceJson)

/-- `GET /billing/invoices/{id}`. -/
def invoice (caller : Auth.Claims) (id : Uuid) : BillingM Response :=
  respond (Invoicing.invoiceOf caller.company id) invoiceJson

/-- `POST /billing/invoices/{id}/cancel`. -/
def cancelInvoice (caller : Auth.Claims) (id : Uuid) : BillingM Response :=
  forOwner caller (respond (Invoicing.cancelPending caller.company id) invoiceJson)

/-- `POST /billing/trial`. -/
def startTrial (caller : Auth.Claims) (choice : PlanChoice) : BillingM Response :=
  forOwner caller (respond (Ledger.startTrial caller.company choice.plan) subscriptionJson)

/-- `POST /billing/checkout`. -/
def checkout (caller : Auth.Claims) (order : PlanOrder) : BillingM Response :=
  forOwner caller (respond (Ledger.checkout caller.company order.plan order.seats) invoiceJson)

/-- `POST /billing/upgrade`. -/
def upgrade (caller : Auth.Claims) (choice : PlanChoice) : BillingM Response :=
  forOwner caller (respond (Ledger.upgrade caller.company choice.plan) invoiceJson)

/-- `POST /billing/downgrade`. -/
def downgrade (caller : Auth.Claims) (choice : PlanChoice) : BillingM Response :=
  forOwner caller (respond (Ledger.downgrade caller.company choice.plan) subscriptionJson)

/-- `POST /billing/seats`. -/
def changeSeats (caller : Auth.Claims) (count : SeatCount) : BillingM Response :=
  forOwner caller (respond (Ledger.changeSeats caller.company count.seats) seatChangeJson)

/-- `POST /billing/cancel`. -/
def cancel (caller : Auth.Claims) : BillingM Response :=
  forOwner caller (respond (Ledger.cancel caller.company) subscriptionJson)

/-- `DELETE /billing/scheduled-change`. -/
def cancelScheduledChange (caller : Auth.Claims) : BillingM Response :=
  forOwner caller (respond (Ledger.cancelScheduledChange caller.company) subscriptionJson)

/-- `GET /billing/access`. -/
def access (caller : Auth.Claims) : BillingM Response :=
  respond (Access.accessOf caller.company) accessJson

/-- `GET /billing/features/{code}`. -/
def feature (caller : Auth.Claims) (code : String) : BillingM Response :=
  respond (Access.hasFeature caller.company code) fun included =>
    some (.obj [("feature", .str code), ("included", .bool included)])

/-- `GET /billing/seats/available`. -/
def seatAvailable (caller : Auth.Claims) : BillingM Response :=
  respond (Access.canAddEmployee caller.company) fun available =>
    some (.obj [("can_add_employee", .bool available)])

/-- `GET /api/v1/admin/billing/invariants`: every invariant check; any failure is an
internal error. -/
def invariants (caller : Auth.Claims) : BillingM Response :=
  match requireRole platformAdminRole caller with
  | .error refusal => return refusal.toApiError.response
  | .ok () => do
    match ← attempt Invariants.runAll with
    | .ok summary =>
      match summaryJson summary summary.violations with
      | some document => return Response.ofJson 200 document
      | none => throw .overflow
    | .error _ => return ApiError.internal.response

/-- The header that carries the provider's callback token. -/
def callbackTokenHeader : String := "x-callback-token"

/-- How a callback's outcome is reported to the provider. -/
def callbackStatus : Webhook.Outcome → String
  | .applied _ => "applied"
  | .expired _ => "expired"
  | .unknownInvoice => "unknown_invoice"
  | .alreadyProcessed _ => "already_processed"
  | .ignored => "ignored"

/-- `POST /api/v1/webhooks/payments`. -/
def paymentCallback (request : Request) : BillingM Response := do
  let token := (request.header? callbackTokenHeader).bind visibleText?
  match ← attempt (Webhook.handle token request.body) with
  | .ok outcome =>
    return Response.ofJson 200 (.obj [("received", .bool true), ("status", .str (callbackStatus outcome))])
  | .error failure =>
    if failure.isTransient then return (ApiError.serviceUnavailable "Temporarily unavailable").response
    else return (ApiError.ofFailure failure).response

end SeatBilling.Api
