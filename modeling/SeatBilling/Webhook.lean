import SeatBilling.Ledger.Operations
import SeatBilling.Json.Decode
import SeatBilling.Time.Rfc3339

/-!
# Payment callbacks

The payment provider calls back with a shared secret. The secret is checked before the body
is read; after that, every business outcome (an unknown invoice, one already settled, an
event that needs nothing) is acknowledged, so that the provider stops sending it again. Only
a bad secret, a malformed body or a failure of the billing core is an error.

The body names the invoice by the provider's id (also spelled `id`) and, as a fallback for
a callback that arrives before that id is stored, by the local id (`external_id`). The event
is given as `event_type` (also spelled `status`).
-/

namespace SeatBilling.Webhook

open SeatBilling.Time
open SeatBilling.Json

/-- The body of a callback. -/
structure Payload where
  providerInvoiceId : String
  /-- The local invoice id, as the provider echoes it back. -/
  externalId : Option String
  eventType : String
  paidAt : Option Moment
  paymentMethod : Option String
  paymentChannel : Option String
  deriving DecidableEq, Repr

/-- A callback body being decoded: each field, once given. -/
structure PayloadDraft where
  providerInvoiceId : Option String
  externalId : Option (Option String)
  eventType : Option String
  paidAt : Option (Option Moment)
  paymentMethod : Option (Option String)
  paymentChannel : Option (Option String)

/-- A payment time, judged as RFC 3339 text. -/
def judgeMoment (text : String) : Verdict Moment :=
  (Moment.ofRfc3339 text).mapError TimeTextError.message

/-- The text of the complaint about a payment time that is not RFC 3339 text. -/
def momentExpected : String := "an RFC3339-formatted `OffsetDateTime`"

/-- How a callback body is decoded. -/
def payloadRecord : Record PayloadDraft Payload where
  name := "WebhookPayload"
  fields :=
    [ ⟨"provider_invoice_id", ["id"], true, (·.providerInvoiceId.isSome),
        fun draft => do return { draft with providerInvoiceId := some (← readText) }, false⟩,
      ⟨"external_id", [], false, (·.externalId.isSome),
        fun draft => do return { draft with externalId := some (← readOptional readText) }, false⟩,
      ⟨"event_type", ["status"], true, (·.eventType.isSome),
        fun draft => do return { draft with eventType := some (← readText) }, false⟩,
      ⟨"paid_at", [], false, (·.paidAt.isSome),
        fun draft => do
          return { draft with paidAt := some (← readOptional (readJudgedText momentExpected judgeMoment)) }, false⟩,
      ⟨"payment_method", [], false, (·.paymentMethod.isSome),
        fun draft => do return { draft with paymentMethod := some (← readOptional readText) }, false⟩,
      ⟨"payment_channel", [], false, (·.paymentChannel.isSome),
        fun draft => do return { draft with paymentChannel := some (← readOptional readText) }, false⟩ ]
  empty := ⟨none, none, none, none, none, none⟩
  finish draft :=
    { providerInvoiceId := draft.providerInvoiceId.getD "", externalId := draft.externalId.join,
      eventType := draft.eventType.getD "", paidAt := draft.paidAt.join,
      paymentMethod := draft.paymentMethod.join, paymentChannel := draft.paymentChannel.join }

/-- What a callback reports. -/
inductive Event where
  | paid
  | expired
  | other
  deriving DecidableEq, Repr

/-- The event an event type names, in any case. -/
def Event.parse (eventType : String) : Event :=
  match eventType.map Char.toLower with
  | "paid" | "settled" | "invoice.paid" => .paid
  | "expired" | "failed" | "invoice.expired" => .expired
  | _ => .other

/-- What handling a callback did. -/
inductive Outcome where
  /-- The invoice was settled and what it buys applied. -/
  | applied (invoice : Uuid)
  /-- The invoice was expired; the subscription is untouched. -/
  | expired (invoice : Uuid)
  /-- No local invoice matches. -/
  | unknownInvoice
  /-- The invoice had already left `pending`. -/
  | alreadyProcessed (invoice : Uuid)
  /-- An event that needs nothing. -/
  | ignored
  deriving DecidableEq, Repr

/-- Checks a callback's secret: it must equal the configured one, which must not be empty. -/
def verifyToken (provided : Option String) : BillingM Unit := do
  let expected := (← config).callbackToken
  if expected.isEmpty || provided.getD "" != expected then failWith .webhookTokenInvalid

/-- The invoice a callback is about: by the provider's id, or else by the local id it echoes,
if that invoice is not linked to another provider id. -/
def lookup (payload : Payload) : BillingM (Option Invoice) := do
  if let some invoice ← Invoicing.findByProviderId payload.providerInvoiceId then
    return some invoice
  match payload.externalId.bind Uuid.parse? with
  | none => return none
  | some localId =>
    let found ← Invoicing.find localId
    return found.filter (fun invoice =>
      match invoice.providerInvoiceId with
      | some id => id == payload.providerInvoiceId
      | none => true)

/-- Applies a checked and decoded callback. -/
def process (payload : Payload) : BillingM Outcome := do
  let event := Event.parse payload.eventType
  if event == .other then return .ignored
  let some invoice ← lookup payload | return .unknownInvoice
  if !invoice.isPending then return .alreadyProcessed invoice.id
  match event with
  | .paid =>
    let paidAt ← match payload.paidAt with
      | some moment => pure moment
      | none => now
    let payment : Payment := ⟨paidAt, payload.paymentMethod, payload.paymentChannel⟩
    match ← Ledger.settle invoice.id payment with
    | .applied _ => return .applied invoice.id
    | .alreadyProcessed settled => return .alreadyProcessed settled.id
  | .expired =>
    if ← Invoicing.markExpired invoice.id then return .expired invoice.id
    else return .alreadyProcessed invoice.id
  | .other => return .ignored

/-- Checks, decodes and applies one callback. -/
def handle (token : Option String) (body : String) : BillingM Outcome := do
  verifyToken token
  match payloadRecord.decode body with
  | .ok payload => process payload
  | .error problem => failWith (.invalidInput ("Malformed webhook body: " ++ problem.message))

end SeatBilling.Webhook
