import SeatBilling.Console.Commands.Billing
import SeatBilling.Console.Commands.Api
import SeatBilling.Api.Router
import SeatBilling.Api.Target

/-!
# Requests to the HTTP interface

`http` sends one request to the service, or to a gate in front of a single route, and answers
the response. The request may carry an access token the console issues for a company: in the
`authorization` header, in the token cookie, or nowhere, for the script to place it with
`{{jwt}}` in a header of its own. A JSON body is sent as compact text with the JSON media
type; a text body is sent as it is, with none. A request that cannot be sent, for its method,
its target or a header, is refused as a bad request.
-/

namespace SeatBilling.Console

open SeatBilling.Api

/-- Where a request is sent. -/
inductive Destination where
  /-- The service's routes. -/
  | service
  /-- A gate, with authentication in front when `signedIn`. -/
  | gate (gate : Gate) (signedIn : Bool)
  deriving DecidableEq, Repr

/-- The destination a router name names: `main`, `gated`, `gated:<feature>`, `ungated` or
`ungated:<feature>`. -/
def destinationNamed (name : String) : Option Destination :=
  if name == "main" then some .service
  else if name == "gated" then some (.gate .active true)
  else if name == "ungated" then some (.gate .active false)
  else
    match afterPrefix? "gated:" name, afterPrefix? "ungated:" name with
    | some code, _ => some (.gate (.feature code) true)
    | _, some code => some (.gate (.feature code) false)
    | none, none => none

/-- The token a request carries, issued for the `auth` a command gives: for its company, as
its user (by default `user`) with its role (by default `owner`) and snapshot, signed with its
secret and lasting its hours (by default the script's). A snapshot that does not decode, or a
lifetime that leaves the calendar, is the answer instead. -/
def tokenFor (auth : Json) : Step (Except Answer String) := do
  let company ← companyAt auth "company"
  let user ← bindLabel ((← need (text? auth "user")).getD "user")
  let role := (← need (text? auth "role")).getD Api.ownerRole
  match ← snapshotOf auth with
  | .error message => return .error (undecodable message)
  | .ok snapshot =>
    let settings := (← get).tokens
    let secret := (← need (text? auth "secret")).getD settings.secret
    let hours := (← need (int64? auth "expiry_hours")).getD settings.expiryHours
    match Auth.expiryAfter tokenClock hours with
    | none => return .error .panic
    | some expiry =>
      return .ok (Auth.issue secret ⟨user, company, role, tokenClock, expiry, snapshot⟩)

/-- Sets a header, replacing the one of that name. -/
def setHeader (headers : List (String × String)) (name value : String) : List (String × String) :=
  headers.filter (·.1 != name) ++ [(name, value)]

/-- The headers a command adds, in the order of their names, templated, with `{{jwt}}`
standing for the token: a string sets a header, `null` removes it. A header whose name or
value cannot be sent spoils the request (`none`), which is refused once it is complete; a
value that is not a string refuses the command at once. -/
def applyHeaders (token : String) (headers : Option (List (String × String))) :
    List (String × Json) → Step (Option (List (String × String)))
  | [] => return headers
  | (name, .null) :: rest =>
    let kept := match headerName? name with
      | some stored => headers.map (·.filter (·.1 != stored))
      | none => headers
    applyHeaders token kept rest
  | (name, .str value) :: rest => do
    let value ← expandWith (fun body => if body == "jwt" then some token else none) value
    let set := match headerName? name with
      | some stored => if headerValueValid value then headers.map (setHeader · stored value) else none
      | none => none
    applyHeaders token set rest
  | (name, _) :: _ => throw ("field '" ++ name ++ "' must be a string")

/-- The header that carries a token, by where `auth_in` puts it: `header` (the default),
`cookie` or `none`. -/
def tokenHeaders (authIn : String) (token : String) : Step (List (String × String)) :=
  match authIn with
  | "header" => return [("authorization", "Bearer " ++ token)]
  | "cookie" => return [("cookie", tokenCookie ++ "=" ++ token)]
  | "none" => return []
  | _ => throw "unknown auth_in"

/-- `http {method?, path, auth?, auth_in?, body?, headers?, router?}`. The token is made
first, then placed as `auth_in` says; a request whose method, target or headers cannot be
sent is refused as a bad request. -/
def httpCommand (command : Json) : Step Answer := do
  let method := (← need (text? command "method")).getD "GET"
  let path ← expand (← need (text command "path"))
  let token ← match present? command "auth" with
    | none => pure (Except.ok none)
    | some auth => do
      match ← tokenFor auth with
      | .error answer => pure (.error answer)
      | .ok token => pure (.ok (some (token, (← need (text? command "auth_in")).getD "header")))
  match token with
  | .error answer => return answer
  | .ok token =>
    let some destination := destinationNamed ((← need (text? command "router")).getD "main")
      | throw "unknown router"
    let (token, headers) ← match token with
      | some (token, authIn) => do pure (token, ← tokenHeaders authIn token)
      | none => pure ("", [])
    let (headers, body) ← match command.field? "body" with
      | none | some .null => pure (headers, "")
      | some (.str text) => do pure (headers, ← expand text)
      | some value => do
        pure (setHeader headers "content-type" Response.jsonType, ← expand value.sortKeys.render)
    let headers ← match command.field? "headers" with
      | some (.obj members) => applyHeaders token (some headers) (Json.sortMembers members)
      | _ => pure (some headers)
    let some target := Target.parse? path | throw "bad request"
    let some headers := headers | throw "bad request"
    if !methodValid method then throw "bad request"
    let request : Request := ⟨method, target.text, headers, body⟩
    let settings : Api.Settings := ⟨(← get).tokens.secret, tokenClock⟩
    let serving := match destination with
      | .service => serve settings request
      | .gate gate signedIn => serveGated settings gate signedIn request
    match ← runBilling serving with
    | .ok response => return .ok (responseJson response)
    | .error (.failed failure) => return .failed failure
    | .error _ => return .panic

end SeatBilling.Console
