import SeatBilling.Ledger.Operations
import SeatBilling.Access.Guard
import SeatBilling.Invariants
import SeatBilling.Sweep
import SeatBilling.Webhook

/-!
# Records as documents

How the billing core's records are written as JSON documents, by the HTTP interface and by the
console alike. Keys are in alphabetical order, identifiers in hyphenated form and times as
RFC 3339 text. A time outside the years 0 to 9999 has no RFC 3339 text, so every writer that
holds a time may fail (`none`).
-/

namespace SeatBilling.Documents

open SeatBilling.Time

/-- An identifier as a document writes it. -/
def idJson (id : Uuid) : Json := .str id.hyphenated

/-- An optional identifier. -/
def optIdJson : Option Uuid → Json
  | some id => idJson id
  | none => .null

/-- A time as RFC 3339 text. -/
def momentJson (moment : Moment) : Option Json := Json.str <$> moment.rfc3339?

/-- An optional time. -/
def optMomentJson : Option Moment → Option Json
  | some moment => momentJson moment
  | none => some .null

/-- A feature. -/
def featureJson (feature : Feature) : Json :=
  .obj [("code", .str feature.code), ("name", .str feature.name)]

/-- A plan. -/
def planJson (plan : Plan) : Json :=
  .obj [("active", .bool plan.active), ("features", .arr (plan.features.map featureJson)),
    ("id", .str plan.id), ("max_seats_included", .int plan.maxSeatsIncluded), ("name", .str plan.name),
    ("price", .int plan.price), ("price_per_extra_seat", .int plan.pricePerExtraSeat)]

/-- A subscription, its identifier written by `id`. -/
def subscriptionJsonWith (id : Json) (subscription : Subscription) : Option Json := do
  return .obj [("company_id", idJson subscription.company), ("created_at", ← momentJson subscription.createdAt),
    ("id", id), ("max_seats", .int subscription.maxSeats),
    ("pending_max_seats", Json.ofOptInt subscription.pendingMaxSeats),
    ("pending_plan_id", Json.ofOptStr subscription.pendingPlan),
    ("period_end", ← momentJson subscription.periodEnd), ("period_start", ← momentJson subscription.periodStart),
    ("plan_id", .str subscription.plan), ("status", .str subscription.status.name),
    ("updated_at", ← momentJson subscription.updatedAt)]

/-- A subscription. -/
def subscriptionJson (subscription : Subscription) : Option Json :=
  subscriptionJsonWith (idJson subscription.id) subscription

/-- An invoice. -/
def invoiceJson (invoice : Invoice) : Option Json := do
  return .obj [("amount", .int invoice.amount), ("company_id", idJson invoice.company),
    ("created_at", ← momentJson invoice.createdAt), ("expires_at", ← optMomentJson invoice.expiresAt),
    ("id", idJson invoice.id), ("invoice_url", Json.ofOptStr invoice.invoiceUrl),
    ("paid_at", ← optMomentJson invoice.paidAt), ("payment_channel", Json.ofOptStr invoice.paymentChannel),
    ("payment_method", Json.ofOptStr invoice.paymentMethod), ("plan_id", .str invoice.plan),
    ("provider_invoice_id", Json.ofOptStr invoice.providerInvoiceId), ("purpose", .str invoice.purpose.name),
    ("seats", .int invoice.seats), ("status", .str invoice.status.name),
    ("subscription_id", optIdJson invoice.subscription)]

/-- A list of records, each written by `write`. -/
def listJson {α : Type} (write : α → Option Json) (items : List α) : Option Json :=
  Json.arr <$> items.mapM write

/-- A subscription as its owner sees it. -/
def viewJson (view : Ledger.SubscriptionView) : Option Json := do
  return .obj [("active_employees", .int view.activeEmployees),
    ("features", .arr (view.features.map featureJson)), ("has_access", .bool view.hasAccess),
    ("pending_plan", match view.pendingPlan with
      | some plan => planJson plan
      | none => .null),
    ("plan", planJson view.plan), ("subscription", ← subscriptionJson view.subscription)]

/-- An event of the log, without its identifier. -/
def eventJson (event : Event) : Option Json := do
  return .obj [("actor_type", .str event.actor.name), ("company_id", idJson event.company),
    ("created_at", ← momentJson event.createdAt), ("data", event.data),
    ("event_type", .str event.kind.name), ("invoice_id", optIdJson event.invoice),
    ("subscription_id", optIdJson event.subscription)]

/-- What a seat change did. -/
def seatChangeJson : Ledger.SeatChange → Option Json
  | .invoiced invoice => do return .obj [("invoice", ← invoiceJson invoice), ("result", .str "invoiced")]
  | .applied subscription => do
    return .obj [("result", .str "applied"), ("subscription", ← subscriptionJson subscription)]
  | .scheduled subscription => do
    return .obj [("result", .str "scheduled"), ("subscription", ← subscriptionJson subscription)]
  | .pendingCleared subscription => do
    return .obj [("result", .str "pending_cleared"), ("subscription", ← subscriptionJson subscription)]

/-- What settling did. -/
def settleJson : Ledger.SettleOutcome → Option Json
  | .applied subscription => do
    return .obj [("result", .str "applied"), ("subscription", ← subscriptionJson subscription)]
  | .alreadyProcessed invoice => do
    return .obj [("invoice", ← invoiceJson invoice), ("result", .str "already_processed")]

/-- What a commit did. -/
def commitJson : Ledger.CommitOutcome → Option Json
  | .committed subscription => do
    return .obj [("result", .str "committed"), ("subscription", ← subscriptionJson subscription)]
  | .refused active maxSeats =>
    some (.obj [("active", .int active), ("max_seats", .int maxSeats), ("result", .str "refused")])
  | .notDue => some (.obj [("result", .str "not_due")])
  | .nothingPending => some (.obj [("result", .str "nothing_pending")])
  | .notEligible status => some (.obj [("result", .str "not_eligible"), ("status", .str status.name)])

/-- Expiry counts. -/
def expiryJson (counts : Ledger.ExpiryCounts) : Json :=
  .obj [("cancelled_expired", .int counts.cancelledExpired), ("grace_expired", .int counts.graceExpired),
    ("moved_to_past_due", .int counts.movedToPastDue)]

/-- What a callback did. -/
def webhookJson : Webhook.Outcome → Json
  | .applied invoice => .obj [("invoice_id", idJson invoice), ("result", .str "applied")]
  | .expired invoice => .obj [("invoice_id", idJson invoice), ("result", .str "expired")]
  | .alreadyProcessed invoice => .obj [("invoice_id", idJson invoice), ("result", .str "already_processed")]
  | .unknownInvoice => .obj [("result", .str "unknown_invoice")]
  | .ignored => .obj [("result", .str "ignored")]

/-- A company's access. -/
def accessJson (decision : Access.Decision) : Option Json := do
  return .obj [("access_until", ← optMomentJson decision.accessUntil), ("allowed", .bool decision.allowed),
    ("plan_id", Json.ofOptStr decision.plan),
    ("status", match decision.status with
      | some status => .str status.name
      | none => .null)]

/-- A breach of an invariant. -/
def violationJson (violation : Invariants.Violation) : Json :=
  .obj [("company_ids", .arr (violation.companies.map idJson)), ("context", violation.context),
    ("description", .str violation.description), ("invariant", .str violation.invariant),
    ("severity", .str violation.severity.name)]

/-- A stuck change of a sweep. -/
def stuckJson (stuck : Sweep.StuckChange) : Json :=
  .obj [("active_employees", .int stuck.activeEmployees), ("company_id", idJson stuck.company),
    ("new_max_seats", .int stuck.newMaxSeats), ("pending_max_seats", Json.ofOptInt stuck.pendingMaxSeats),
    ("pending_plan_id", Json.ofOptStr stuck.pendingPlan), ("subscription_id", idJson stuck.subscription)]

/-- A failure of a sweep. -/
def stepFailureJson (failure : Sweep.StepFailure) : Json :=
  .obj [("error", .str failure.error), ("record_id", optIdJson failure.record), ("step", .str failure.step.name)]

/-- The report of all invariant checks, its breaches in the order given. -/
def summaryJson (summary : Invariants.Summary) (violations : List Invariants.Violation) : Option Json := do
  return .obj [("checked_at", ← momentJson summary.checkedAt), ("checks_failed", .int summary.checksFailed),
    ("checks_passed", .int summary.checksPassed), ("checks_run", .int summary.checksRun),
    ("healthy", .bool summary.healthy), ("violations", .arr (violations.map violationJson))]

end SeatBilling.Documents
