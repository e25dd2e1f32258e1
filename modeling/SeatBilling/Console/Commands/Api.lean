import SeatBilling.Console.Commands.Direct
import SeatBilling.Api.Error
import SeatBilling.Json.Read

/-!
# Commands on the HTTP interface

The console shows a response as its status, its content type and its body: a body that is
JSON text is shown as that document, any other body as `{"text": …}`.
-/

namespace SeatBilling.Console

open SeatBilling.Api

/-- How an answer shows the body of a response. -/
def bodyJson : Body → Json
  | .json document => document
  | .text content =>
    match Json.read content with
    | .ok document => document
    | .error _ => .obj [("text", .str content)]

/-- How an answer shows a response. -/
def responseJson (response : Response) : Json :=
  .obj [("status", .int response.status), ("content_type", Json.ofOptStr response.contentType),
    ("body", bodyJson response.body)]

/-- `api_error {kind, text?, company?, active?, max_seats?}`: the error of the HTTP interface
that reports a failure of the billing core. -/
def apiErrorCommand (command : Json) : Step Answer := do
  let error := ApiError.ofFailure (← failureOf command)
  return .ok (.obj [("display", .str error.message), ("status", .int error.status),
    ("response", responseJson error.response)])

/-- `auth_error {kind, text?}`: an authentication error, its response and the error of the
HTTP interface it becomes. -/
def authErrorCommand (command : Json) : Step Answer := do
  let kind ← need (text command "kind")
  let detail := (← need (text? command "text")).getD ""
  let error ← match kind with
    | "MissingAuth" => pure AuthError.missingAuth
    | "InvalidToken" => pure .invalidToken
    | "InsufficientPermissions" => pure .insufficientPermissions
    | "Internal" => pure (.internal detail)
    | _ => throw "unknown error kind"
  let asApi := error.toApiError
  return .ok (.obj [("display", .str error.message), ("response", responseJson error.response),
    ("api_error", .obj [("display", .str asApi.message), ("status", .int asApi.status)])])

end SeatBilling.Console
