import SeatBilling.World
import SeatBilling.Json.Decode
import SeatBilling.Time.Rfc3339

/-!
# The hosted-invoice client

A payment provider behind HTTP takes each hosted invoice as one POST to its invoices address,
authenticated by the secret key (the user of basic authentication, with no password) and
keyed for idempotency by the local invoice id. Its answer is classified at once: a 4xx
status is a refusal and final; any other status but 2xx, an answer that never came, and a 2xx
body that describes no invoice are failures of the provider, and the request is tried again
after them, three tries in all.

The client is written over any monad: the transport that carries a POST and the logger are
its parameters, so the same definition runs against a provider that cannot be reached and
against a scripted one.
-/

namespace SeatBilling.Provider

open SeatBilling.Json
open SeatBilling.Time

/-- How the core reaches a provider behind HTTP: the address it posts invoices to, the secret
key it authenticates with, and the page a payer is sent to after paying, if one is set. -/
structure HttpClient where
  endpoint : String
  secretKey : String
  successRedirect : Option String
  deriving DecidableEq, Repr

/-- A POST of a hosted invoice as it leaves the client. -/
structure InvoicePost where
  url : String
  /-- The user of basic authentication, sent with no password. -/
  basicAuthUser : String
  idempotencyKey : String
  body : Json
  deriving Repr

/-- The body of a hosted-invoice request: the local invoice id as the provider's external id,
the amount, the description and how long the invoice stays payable, in seconds; the redirect
page only when one is set. -/
def invoiceBody (redirect : Option String) (request : ProviderRequest) : Json :=
  .obj ([("external_id", .str request.invoice.hyphenated), ("amount", .int request.amount),
      ("description", .str request.description), ("invoice_duration", .int request.ttlSeconds)] ++
    (redirect.map fun url => ("success_redirect_url", Json.str url)).toList)

/-- The POST that asks for the hosted invoice of `request`. -/
def HttpClient.post (client : HttpClient) (request : ProviderRequest) : InvoicePost where
  url := client.endpoint
  basicAuthUser := client.secretKey
  idempotencyKey := request.invoice.hyphenated
  body := invoiceBody client.successRedirect request

/-- What one POST brought back: no answer (the request could not be sent or its answer not
read, with the transport's complaint), or the provider's reply: its status code, the reason
phrase the HTTP library shows beside that code, and the body. -/
inductive HttpAnswer where
  | unsent (complaint : String)
  | replied (status : Nat) (reason : String) (body : String)
  deriving DecidableEq, Repr

/-- Whether a status is a client error (4xx). -/
def clientError (status : Nat) : Bool := 400 ≤ status && status < 500

/-- Whether a status is a success (2xx). -/
def success (status : Nat) : Bool := 200 ≤ status && status < 300

/-- A provider's hosted invoice being decoded from its reply: each field, once given. -/
structure CreatedDraft where
  id : Option String
  invoiceUrl : Option String
  expiryDate : Option (Option Moment)

/-- A time given as RFC 3339 text. -/
def readRfc3339 : Reading Moment :=
  readJudgedText "an RFC3339-formatted `OffsetDateTime`" fun text =>
    (Moment.ofRfc3339 text).mapError TimeTextError.message

/-- How the reply to a created invoice is decoded: its id and payment page must be given, its
expiry may be left out or null. -/
def createdRecord : Record CreatedDraft ProviderInvoice where
  name := "CreateInvoiceResponse"
  fields :=
    [ ⟨"id", [], true, (·.id.isSome),
        fun draft => do return { draft with id := some (← readText) }, false⟩,
      ⟨"invoice_url", [], true, (·.invoiceUrl.isSome),
        fun draft => do return { draft with invoiceUrl := some (← readText) }, false⟩,
      ⟨"expiry_date", [], false, (·.expiryDate.isSome),
        fun draft => do return { draft with expiryDate := some (← readOptional readRfc3339) }, false⟩ ]
  empty := ⟨none, none, none⟩
  finish draft := ⟨draft.id.getD "", draft.invoiceUrl.getD "", draft.expiryDate.join⟩

/-- How one answer ends its try. A 4xx reply is a refusal that shows the status and the body;
a reply with any other status but 2xx, and an answer that never came, are failures of the
provider; a 2xx reply gives the invoice its body describes, or is a failure of the provider
when the body describes none (the decoder's complaint is not shown). -/
def HttpAnswer.outcome : HttpAnswer → Except Failure ProviderInvoice
  | .unsent complaint => .error (.providerUnavailable complaint)
  | .replied status reason body =>
    if clientError status then .error (.providerRejected (toString status ++ " " ++ reason ++ ": " ++ body))
    else if success status then
      match createdRecord.decode body with
      | .ok invoice => .ok invoice
      | .error _ => .error (.providerUnavailable "malformed response: error decoding response body")
    else .error (.providerUnavailable ("unexpected status " ++ toString status ++ " " ++ reason))

/-- Runs `action` once, then once more per pause left while `retry` accepts its failure:
the retrying loop of the asynchronous runtime, whose pauses leave no trace here. `retry` is
asked about every failure, the last one too, and may act (a logger does). -/
def retryIf {m : Type → Type} [Monad m] {ε α : Type} (retry : ε → m Bool)
    (action : m (Except ε α)) : Nat → m (Except ε α)
  | 0 => do
    let outcome ← action
    match outcome with
    | .ok _ => pure outcome
    | .error failure => do
      let _ ← retry failure
      pure outcome
  | pauses + 1 => do
    let outcome ← action
    match outcome with
    | .ok _ => pure outcome
    | .error failure => if ← retry failure then retryIf retry action pauses else pure outcome

/-- The most tries of one request. -/
def maxAttempts : Nat := 3

/-- Asks the provider behind `client` for a hosted invoice: posts the request through `send`
and takes the answer's outcome, trying again after each transient failure while fewer than
`maxAttempts` tries were made. Each transient failure is logged as a warning as it is judged,
and the end as the invoice created or the failure that stopped the request. -/
def HttpClient.createInvoice {m : Type → Type} [Monad m] (client : HttpClient)
    (send : InvoicePost → m HttpAnswer) (log : Log.Level → String → List (String × String) → m Unit)
    (request : ProviderRequest) : m (Except Failure ProviderInvoice) := do
  let ids := [("invoice_id", request.invoice.hyphenated)]
  let outcome ← retryIf
    (fun failure => do
      if failure.isTransient then
        log .warn "Payment provider call failed, retrying" (ids ++ [("error", failure.message)])
      pure failure.isTransient)
    (HttpAnswer.outcome <$> send (client.post request)) (maxAttempts - 1)
  match outcome with
  | .ok created =>
    log .info "Created provider invoice" (ids ++ [("provider_invoice_id", created.providerInvoiceId)])
  | .error failure =>
    log .error "Payment provider invoice creation failed"
      (ids ++ [("company_id", request.company.hyphenated), ("error", failure.message)])
  pure outcome

end SeatBilling.Provider
