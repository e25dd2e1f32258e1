import SeatBilling.Api.Handlers

/-!
# Routing

A request is served by the first route whose path pattern matches its path, segment by
segment: a fixed segment matches itself, a parameter `{name}` any non-empty segment. A path no
route matches is answered 404, a method the route does not serve 405, both with an empty
body; `HEAD` is served like `GET`, without the body.

The routes under `/api/v1/billing` (but the plans) and `/api/v1/admin` first authenticate
the caller by an access token, whatever the method; a request without a token, or with one
that is not accepted, is answered with the authentication error instead.

A gate stands in front of a single route, `GET /protected`, and of every other path: the
caller must be authenticated and the company's subscription usable, or include a feature.
-/

namespace SeatBilling.Api

/-- How the HTTP interface checks access tokens: the secret and the time of the check, in
unix seconds. -/
structure Settings where
  secret : String
  clock : Int
  deriving Repr

/-- The caller a request's token names, if the token is there and accepted. -/
def authenticate (settings : Settings) (request : Request) : Except AuthError Auth.Claims :=
  match request.bearerToken? with
  | none => .error .missingAuth
  | some token =>
    match Auth.verify settings.secret settings.clock token with
    | some claims => .ok claims
    | none => .error .invalidToken

/-- A segment of a path pattern. -/
inductive PathPart where
  | fixed (text : String)
  | param (name : String)
  deriving DecidableEq, Repr

/-- The parts of a pattern such as `/billing/invoices/{id}`. -/
def patternParts (pattern : String) : List PathPart :=
  (pattern.splitOn "/").map fun segment =>
    if segment.startsWith "\x7b" && segment.endsWith "\x7d" then
      .param (String.ofList ((segment.toList.drop 1).dropLast))
    else .fixed segment

/-- The parameters of a path's segments matched against a pattern's parts, if they match. -/
def matchParts : List PathPart → List String → Option (List (String × String))
  | [], [] => some []
  | .fixed text :: parts, segment :: segments =>
    if text == segment then matchParts parts segments else none
  | .param name :: parts, segment :: segments =>
    if segment.isEmpty then none else ((name, segment) :: ·) <$> matchParts parts segments
  | _, _ => none

/-- The raw parameters of a path. -/
abbrev Params := List (String × String)

/-- The value of a parameter. -/
def Params.get (params : Params) (name : String) : String :=
  ((params.find? (·.1 == name)).map Prod.snd).getD ""

/-- A route: a path pattern and what each method does. An open route serves anyone; a
signed-in route first authenticates the caller. -/
inductive Route where
  | open_ (pattern : String) (methods : List (String × (Request → BillingM Response)))
  | signedIn (pattern : String) (methods : List (String × (Auth.Claims → Request → Params → BillingM Response)))

/-- The pattern of a route. -/
def Route.pattern : Route → String
  | .open_ pattern _ => pattern
  | .signedIn pattern _ => pattern

/-- What serves a method: the handler, and whether the body is dropped (`HEAD` served as
`GET`). -/
def selectMethod {β : Type} (methods : List (String × β)) (method : String) : Option (β × Bool) :=
  match methods.find? (·.1 == method) with
  | some (_, handler) => some (handler, false)
  | none =>
    if method == "HEAD" then ((methods.find? (·.1 == "GET")).map Prod.snd).map (·, true)
    else none

/-- A response without its body, when `drop` says so. -/
def Response.dropBody (drop : Bool) (response : Response) : Response :=
  if drop then { response with body := .text "" } else response

/-! ## Parameters and bodies -/

/-- Runs `action` on an identifier parameter, or rejects the request. -/
def withIdParam (params : Params) (name : String) (action : Uuid → BillingM Response) :
    BillingM Response :=
  match pathUuid name (params.get name) with
  | .ok id => action id
  | .error rejection => return rejection.response

/-- Runs `action` on a text parameter, or rejects the request. -/
def withTextParam (params : Params) (name : String) (action : String → BillingM Response) :
    BillingM Response :=
  match pathText name (params.get name) with
  | .ok text => action text
  | .error rejection => return rejection.response

/-! ## The service -/

/-- The routes of the service. -/
def routes : List Route :=
  [ .open_ "/health" [("GET", fun _ => return health)],
    .open_ "/api/v1/billing/plans" [("GET", fun _ => plans)],
    .open_ "/api/v1/webhooks/payments" [("POST", paymentCallback)],
    .signedIn "/api/v1/billing/subscription" [("GET", fun caller _ _ => mySubscription caller)],
    .signedIn "/api/v1/billing/invoices" [("GET", fun caller _ _ => invoices caller)],
    .signedIn "/api/v1/billing/invoices/{id}"
      [("GET", fun caller _ params => withIdParam params "id" (invoice caller))],
    .signedIn "/api/v1/billing/invoices/{id}/cancel"
      [("POST", fun caller _ params => withIdParam params "id" (cancelInvoice caller))],
    .signedIn "/api/v1/billing/trial"
      [("POST", fun caller request _ => withBody planChoiceRecord request (startTrial caller))],
    .signedIn "/api/v1/billing/checkout"
      [("POST", fun caller request _ => withBody planOrderRecord request (checkout caller))],
    .signedIn "/api/v1/billing/upgrade"
      [("POST", fun caller request _ => withBody planChoiceRecord request (upgrade caller))],
    .signedIn "/api/v1/billing/downgrade"
      [("POST", fun caller request _ => withBody planChoiceRecord request (downgrade caller))],
    .signedIn "/api/v1/billing/seats"
      [("POST", fun caller request _ => withBody seatCountRecord request (changeSeats caller))],
    .signedIn "/api/v1/billing/cancel" [("POST", fun caller _ _ => cancel caller)],
    .signedIn "/api/v1/billing/scheduled-change" [("DELETE", fun caller _ _ => cancelScheduledChange caller)],
    .signedIn "/api/v1/billing/access" [("GET", fun caller _ _ => access caller)],
    .signedIn "/api/v1/billing/features/{code}"
      [("GET", fun caller _ params => withTextParam params "code" (feature caller))],
    .signedIn "/api/v1/billing/seats/available" [("GET", fun caller _ _ => seatAvailable caller)],
    .signedIn "/api/v1/admin/billing/invariants" [("GET", fun caller _ _ => invariants caller)] ]

/-- The route that matches a path, with the path's parameters. -/
def route? (path : String) : Option (Route × Params) :=
  routes.findSome? fun route => (matchParts (patternParts route.pattern) (path.splitOn "/")).map (route, ·)

/-- Serves a request. -/
def serve (settings : Settings) (request : Request) : BillingM Response :=
  match route? request.path with
  | none => return Response.empty 404
  | some (.open_ _ methods, _) =>
    match selectMethod methods request.method with
    | some (handler, drop) => Response.dropBody drop <$> handler request
    | none => return Response.empty 405
  | some (.signedIn _ methods, params) =>
    match authenticate settings request with
    | .error refusal => return refusal.response
    | .ok caller =>
      match selectMethod methods request.method with
      | some (handler, drop) => Response.dropBody drop <$> handler caller request params
      | none => return Response.empty 405

/-! ## Gates -/

/-- What a gate asks of the caller's company. -/
inductive Gate where
  /-- A usable subscription. -/
  | active
  /-- A plan that includes a feature. -/
  | feature (code : String)
  deriving DecidableEq, Repr

/-- Checks a gate for a caller: the token's snapshot first, the ledger when the snapshot
cannot allow the request. -/
def Gate.check (gate : Gate) (caller : Auth.Claims) : BillingM Unit :=
  match gate with
  | .active => Access.requireActive caller.company caller.snapshot
  | .feature code => Access.requireFeature caller.company code caller.snapshot

/-- Serves a request behind a gate, with authentication in front when `signedIn`; without
it, no caller is known and every request is refused as unauthenticated. -/
def serveGated (settings : Settings) (gate : Gate) (signedIn : Bool) (request : Request) :
    BillingM Response := do
  let known : Except AuthError Auth.Claims :=
    if signedIn then authenticate settings request else .error .missingAuth
  match known with
  | .error refusal => return refusal.response
  | .ok caller =>
    match ← attempt (gate.check caller) with
    | .error failure => return (ApiError.ofFailure failure).response
    | .ok () =>
      if request.path == "/protected" then
        match selectMethod [("GET", ())] request.method with
        | some (_, drop) => return Response.dropBody drop (Response.ofText 200 "ok")
        | none => return Response.empty 405
      else return Response.empty 404

end SeatBilling.Api
