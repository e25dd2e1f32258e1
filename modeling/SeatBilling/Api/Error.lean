import SeatBilling.Api.Response
import SeatBilling.Failure

/-!
# Errors of the HTTP interface

The HTTP interface answers every failure with one of seven kinds of error, and each kind has
its status code:

* `notFound` (404) says what was not found;
* `conflict` (409) for conflicting writes: a conflict, a second pending invoice, a concurrent
  change;
* `validation` (400) for requests the rules refuse: a plan change, bad input, or an invoice
  the payment provider rejected;
* `forbidden` (403) when the plan does not allow it: a missing feature, no free seat, an
  unusable subscription, or a role without the permission;
* `unauthorized` (401) when the caller is not known;
* `serviceUnavailable` (503) for transient failures of the store, the provider or a time
  limit; the message never shows their details;
* `internal` (500) for the rest, also without details.

Failures of authentication have kinds of their own, with their own response.
-/

namespace SeatBilling.Api

/-- An error of the HTTP interface. -/
inductive ApiError where
  | notFound (message : String)
  | conflict (message : String)
  | validation (message : String)
  | forbidden (message : String)
  | unauthorized
  | serviceUnavailable (message : String)
  | internal
  deriving DecidableEq, Repr

namespace ApiError

/-- The status code of an error. -/
def status : ApiError → Nat
  | .notFound _ => 404
  | .conflict _ => 409
  | .validation _ => 400
  | .forbidden _ => 403
  | .unauthorized => 401
  | .serviceUnavailable _ => 503
  | .internal => 500

/-- The message of an error. -/
def message : ApiError → String
  | .notFound message => message
  | .conflict message => message
  | .validation message => message
  | .forbidden message => message
  | .unauthorized => "Unauthorized"
  | .serviceUnavailable message => message
  | .internal => "Internal server error"

/-- What a caller is told when a transient failure stops a request. -/
def retryLater : String := "Temporarily unavailable, please retry"

/-- The error that reports a failure of the billing core. Only what was not found keeps its
own words; the other kinds that show a message show the failure's whole message. -/
def ofFailure (failure : Failure) : ApiError :=
  match failure with
  | .notFound what => .notFound what
  | .conflict _ | .duplicatePendingInvoice _ | .concurrentModification _ => .conflict failure.message
  | .invalidPlanChange _ | .invalidInput _ | .providerRejected _ => .validation failure.message
  | .featureNotIncluded _ | .seatLimitExceeded _ _ | .subscriptionInactive _ =>
    .forbidden failure.message
  | .webhookTokenInvalid => .unauthorized
  | .database _ | .providerUnavailable _ | .timedOut _ => .serviceUnavailable retryLater
  | .config _ | .internal _ => .internal

/-- The response that reports an error. -/
def response (error : ApiError) : Response := Response.problem error.status error.message

end ApiError

/-- Why a request could not be authenticated or authorised. -/
inductive AuthError where
  /-- The request carries no token. -/
  | missingAuth
  /-- The token is malformed, signed with another key, or expired. -/
  | invalidToken
  /-- The caller's role does not allow the request. -/
  | insufficientPermissions
  /-- A token could not be made. -/
  | internal (detail : String)
  deriving DecidableEq, Repr

namespace AuthError

/-- The message of an authentication error. -/
def message : AuthError → String
  | .missingAuth => "Missing authentication"
  | .invalidToken => "Invalid or expired token"
  | .insufficientPermissions => "Insufficient permissions"
  | .internal detail => "Internal error: " ++ detail

/-- The response to a request that failed authentication; it never shows an internal
error's detail. -/
def response : AuthError → Response
  | .missingAuth => Response.problem 401 "Authentication required"
  | .invalidToken => Response.problem 401 "Invalid or expired token"
  | .insufficientPermissions => Response.problem 403 "Insufficient permissions"
  | .internal _ => Response.problem 500 "Internal server error"

/-- The error of the HTTP interface an authentication error becomes inside a handler. -/
def toApiError : AuthError → ApiError
  | .missingAuth | .invalidToken => .unauthorized
  | .insufficientPermissions => .forbidden "Insufficient permissions"
  | .internal _ => .internal

end AuthError

end SeatBilling.Api
