import SeatBilling.Console.State

/-!
# Records written in a script

Plans and features are written whole, as the catalog stores them: every field is required
(an object, or an array holding the fields in order) and a bad one is refused as a whole.
Subscriptions and invoices for seeding are written field by field, with defaults for what
is left out; their identifiers are labels.
-/

namespace SeatBilling.Console

open SeatBilling.Time

/-- A feature: `code` and `name`. -/
def decodeFeature : Json → Option Feature
  | .obj members => do
    let code ← (members.lookup "code").bind Json.getStr?
    let name ← (members.lookup "name").bind Json.getStr?
    pure ⟨code, name⟩
  | .arr [.str code, .str name] => some ⟨code, name⟩
  | _ => none

/-- A whole number in the signed range of `bits` bits. -/
def wholeWithin (bits : Nat) : Json → Option Int
  | .int value => if -Int.pow 2 (bits - 1) ≤ value && value < Int.pow 2 (bits - 1) then some value else none
  | _ => none

/-- The parts of a plan, in order. -/
def planFrom (id name price extra included active features : Option Json) : Option Plan := do
  let id ← id.bind Json.getStr?
  let name ← name.bind Json.getStr?
  let price ← price.bind (wholeWithin 64)
  let extra ← extra.bind (wholeWithin 64)
  let included ← included.bind (wholeWithin 32)
  let active ← active.bind Json.getBool?
  let features ← (features.bind Json.getArr?).bind (·.mapM decodeFeature)
  pure ⟨id, name, price, extra, included, active, features⟩

/-- A plan: `id`, `name`, `price`, `price_per_extra_seat`, `max_seats_included`, `active` and
`features`. -/
def decodePlan : Json → Option Plan
  | .obj members =>
    planFrom (members.lookup "id") (members.lookup "name") (members.lookup "price")
      (members.lookup "price_per_extra_seat") (members.lookup "max_seats_included") (members.lookup "active")
      (members.lookup "features")
  | .arr [id, name, price, extra, included, active, features] =>
    planFrom id name price extra included active features
  | _ => none

/-- The plans a console starts with when the script names none. -/
def standardPlans : List Plan :=
  let attendance : Feature := ⟨"attendance", "Attendance"⟩
  let leave : Feature := ⟨"leave", "Leave management"⟩
  let payroll : Feature := ⟨"payroll", "Payroll"⟩
  [⟨"basic", "basic", 10000, 1000, 5, true, [attendance]⟩,
   ⟨"starter", "starter", 25000, 1000, 10, true, [attendance, leave]⟩,
   ⟨"pro", "pro", 50000, 1000, 25, true, [attendance, leave, payroll]⟩]

/-- A refusal unless `value` is present. -/
def orRefuse {α : Type} (message : String) : Option α → Except Refusal α
  | some value => .ok value
  | none => .error message

/-- A status, purpose or other closed set, by its spelling. -/
def spelled {α : Type} (parse : String → Except UnknownName α) (command : Json) (key : String)
    (default : α) : Except Refusal α := do
  match ← text? command key with
  | some name => (parse name).mapError UnknownName.message
  | none => pure default

/-- The fields of a subscription written for seeding, with its company's label, its own
label, and its identifiers unbound yet. -/
structure SubscriptionSeed where
  company : String
  label : Option String
  plan : String
  status : SubscriptionStatus
  maxSeats : Int
  pendingMaxSeats : Option Int
  pendingPlan : Option String
  periodStart : Option Moment
  periodEnd : Option Moment
  createdAt : Option Moment
  updatedAt : Option Moment
  version : Int

/-- Reads the fields of a subscription written for seeding. -/
def readSubscriptionSeed (fields : Json) : Except Refusal SubscriptionSeed := do
  let company ← text fields "company"
  let label ← text? fields "label"
  let plan := (← text? fields "plan_id").getD "basic"
  let status ← spelled SubscriptionStatus.parse fields "status" .active
  let maxSeats := (← int32? fields "max_seats").getD 5
  let pendingMaxSeats ← int32? fields "pending_max_seats"
  let pendingPlan ← text? fields "pending_plan_id"
  let periodStart ← moment? fields "period_start"
  let periodEnd ← moment? fields "period_end"
  let createdAt ← moment? fields "created_at"
  let updatedAt ← moment? fields "updated_at"
  let version := (← int64? fields "version").getD 0
  pure ⟨company, label, plan, status, maxSeats, pendingMaxSeats, pendingPlan, periodStart, periodEnd,
    createdAt, updatedAt, version⟩

/-- The fields of an invoice written for seeding, with labels for its identifiers. -/
structure InvoiceSeed where
  label : String
  company : String
  subscription : Option String
  providerInvoiceId : Option String
  invoiceUrl : Option String
  status : InvoiceStatus
  purpose : InvoicePurpose
  plan : String
  seats : Int
  amount : Int
  paymentMethod : Option String
  paymentChannel : Option String
  createdAt : Option Moment
  expiresAt : Option Moment
  paidAt : Option Moment

/-- Reads the fields of an invoice written for seeding. -/
def readInvoiceSeed (fields : Json) : Except Refusal InvoiceSeed := do
  let company ← text fields "company"
  let label ← text fields "label"
  let subscription ← text? fields "subscription"
  let providerInvoiceId ← text? fields "provider_invoice_id"
  let invoiceUrl ← text? fields "invoice_url"
  let status ← spelled InvoiceStatus.parse fields "status" .pending
  let purpose ← spelled InvoicePurpose.parse fields "purpose" .checkout
  let plan := (← text? fields "plan_id").getD "basic"
  let seats := (← int32? fields "seats").getD 5
  let amount := (← int64? fields "amount").getD 10000
  let paymentMethod ← text? fields "payment_method"
  let paymentChannel ← text? fields "payment_channel"
  let createdAt ← moment? fields "created_at"
  let expiresAt ← moment? fields "expires_at"
  let paidAt ← moment? fields "paid_at"
  pure ⟨label, company, subscription, providerInvoiceId, invoiceUrl, status, purpose, plan, seats, amount,
    paymentMethod, paymentChannel, createdAt, expiresAt, paidAt⟩

/-- The seeded subscription: its labels bound, its times defaulted from the clock; `none`
when the default end of its period leaves the calendar. -/
def SubscriptionSeed.bind (seed : SubscriptionSeed) : ConsoleM (Option Subscription) := do
  let company ← bindCompany seed.company
  let id ← bindLabel (seed.label.getD ("sub-" ++ seed.company))
  let at_ := (← get).world.clock
  let periodStart := seed.periodStart.getD at_
  let some periodEnd := seed.periodEnd.orElse (fun _ => periodStart.shift? ⟨30 * 86400⟩) | return none
  return some {
    id := id, company := company, plan := seed.plan, status := seed.status, maxSeats := seed.maxSeats,
    pendingMaxSeats := seed.pendingMaxSeats, pendingPlan := seed.pendingPlan, periodStart := periodStart,
    periodEnd := periodEnd, createdAt := seed.createdAt.getD at_, updatedAt := seed.updatedAt.getD at_,
    version := seed.version }

/-- The seeded invoice: its labels bound, its creation time defaulted from the clock. -/
def InvoiceSeed.bind (seed : InvoiceSeed) : ConsoleM Invoice := do
  let company ← bindCompany seed.company
  let id ← bindLabel seed.label
  let subscription ← match seed.subscription with
    | some label => some <$> bindLabel label
    | none => pure none
  let at_ := (← get).world.clock
  return {
    id := id, company := company, subscription := subscription,
    providerInvoiceId := seed.providerInvoiceId, invoiceUrl := seed.invoiceUrl, status := seed.status,
    purpose := seed.purpose, plan := seed.plan, seats := seed.seats, amount := seed.amount,
    paymentMethod := seed.paymentMethod, paymentChannel := seed.paymentChannel,
    createdAt := seed.createdAt.getD at_, expiresAt := seed.expiresAt, paidAt := seed.paidAt }

end SeatBilling.Console
