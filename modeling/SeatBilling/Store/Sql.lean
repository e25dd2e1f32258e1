import SeatBilling.Database.Session
import SeatBilling.Catalog.Plan
import SeatBilling.Ledger.Subscription
import SeatBilling.Ledger.Invoice
import SeatBilling.Ledger.Event
import SeatBilling.Failure
import Std.Data.HashMap

/-!
# The store kept in database tables

Each operation of the store as the statements it sends to the database and how it reads
their answers. A field the database gives cannot be read, or a statement fails: the
operation fails with a database failure that carries the client's text. A row is read whole,
field by field in the order of the record's fields, and all rows of a result are read before
any of them is turned into a record, so a field that cannot be read outranks a stored name of
no status, purpose or event kind (a corrupt stored value).

Writes of a subscription run in a transaction. An insertion that touches no row means the
company already has a subscription; an update that touches no row lost the race with another
writer. Settling an invoice locks its row, writes the subscription and marks the invoice paid
in one transaction, and touches nothing when the invoice is no longer pending.
-/

namespace SeatBilling.SqlStore

open SeatBilling.Time
open SeatBilling.Database

/-- An operation of the store on the database. -/
abbrev StoreM := ExceptT Halt (StateM Link)

/-- A session step as a store step: its database errors become database failures. -/
def exchange {α : Type} (step : Exchange α) : StoreM α := do
  match ← (step.run : StateM Link (Except Abort α)) with
  | .ok value => pure value
  | .error (.failed error) => throw (.failed (.database error.message))
  | .error .overflow => throw .overflow

/-- A session step whose database error the store looks at itself. -/
def attempt {α : Type} (step : Exchange α) : StoreM (Except DbError α) := do
  match ← (step.run : StateM Link (Except Abort α)) with
  | .ok value => pure (.ok value)
  | .error (.failed error) => pure (.error error)
  | .error .overflow => throw .overflow

/-- A field of a row. -/
def field {α : Type} (reading : Except DbError α) : StoreM α := exchange (readField reading)

/-- The moment a timestamp names; one out of the calendar's range stops the program. -/
def momentOf (micros : Int) : StoreM Moment :=
  match Moment.ofWall? ((timestampEpoch * 1000000 + micros) * 1000) 0 with
  | some moment => pure moment
  | none => throw .overflow

/-- Fails with a failure of the store. -/
def reject {α : Type} (failure : Failure) : StoreM α := throw (.failed failure)

/-- Runs `body` in a transaction; if `body` fails, the transaction is left open and so rolled
back when its connection goes back to the pool. -/
def inTransaction {α : Type} (body : StoreM α) : StoreM α := do
  exchange beginTransaction
  tryCatch body fun halt => do
    exchange abandonTransaction
    throw halt

/-- The first failure of a list of records read from rows, or the records. -/
def allRecords {α : Type} (records : List (Except Failure α)) : StoreM (List α) :=
  match records.mapM id with
  | .ok values => pure values
  | .error failure => reject failure

/-- A record read from a row, or its failure. -/
def record {α : Type} (read : Except Failure α) : StoreM α :=
  match read with
  | .ok value => pure value
  | .error failure => reject failure

/-- The failure of a stored name of no known value. -/
def corrupt (unknown : UnknownName) : Failure := .internal ("Corrupt stored value: " ++ unknown.message)

/-! ## Statements -/

/-- A statement written over several indented lines, as a block that starts on a new line and
ends with the indentation of its lines. -/
def block (indent : Nat) (lines : List String) : String :=
  let margin := String.ofList (List.replicate indent ' ')
  "\n" ++ String.join (lines.map fun line => margin ++ line ++ "\n") ++ margin

/-- The columns of a subscription row. -/
def subscriptionColumns : String :=
  "id, company_id, plan_id, status, max_seats, pending_max_seats, pending_plan_id, period_start, " ++
    "period_end, created_at, updated_at, version"

/-- The columns of an invoice row. -/
def invoiceColumns : String :=
  "id, company_id, subscription_id, provider_invoice_id, invoice_url, status, purpose, plan_id, " ++
    "seats, amount, payment_method, payment_channel, created_at, expires_at, paid_at"

def listPlansSql : String :=
  block 12 ["SELECT id, name, price, price_per_extra_seat, max_seats_included, active", "FROM plans",
    "WHERE active OR NOT $1", "ORDER BY price, max_seats_included, name"]

def getPlanSql : String :=
  block 12 ["SELECT id, name, price, price_per_extra_seat, max_seats_included, active", "FROM plans",
    "WHERE id = $1"]

def planFeaturesSql : String :=
  block 12 ["SELECT pf.plan_id, f.code, f.name", "FROM plan_features pf",
    "JOIN features f ON f.code = pf.feature_code", "WHERE pf.plan_id = ANY($1)",
    "ORDER BY pf.plan_id, pf.position, f.code"]

def getFeatureSql : String := "SELECT code, name FROM features WHERE code = $1"

def getSubscriptionSql : String := "SELECT " ++ subscriptionColumns ++ " FROM subscriptions WHERE id = $1"

def subscriptionOfCompanySql : String :=
  "SELECT " ++ subscriptionColumns ++ " FROM subscriptions WHERE company_id = $1"

def insertSubscriptionSql : String :=
  block 16 ["INSERT INTO subscriptions (id, company_id, plan_id, status, max_seats,",
    "    pending_max_seats, pending_plan_id, period_start, period_end,",
    "    created_at, updated_at, version)",
    "VALUES ($1, $2, $3, $4, $5, $6, $7, $8, $9, $10, $11, 0)",
    "ON CONFLICT (company_id) DO NOTHING"]

def updateSubscriptionSql : String :=
  block 16 ["UPDATE subscriptions", "SET plan_id = $1,", "    status = $2,", "    max_seats = $3,",
    "    pending_max_seats = $4,", "    pending_plan_id = $5,", "    period_start = $6,",
    "    period_end = $7,", "    updated_at = $8,", "    version = version + 1",
    "WHERE id = $9 AND version = $10"]

def listExpiringSql : String :=
  "SELECT " ++ subscriptionColumns ++ " FROM subscriptions WHERE status = ANY($1) AND period_end < $2"

def pendingChangesSql : String :=
  block 12 ["SELECT " ++ subscriptionColumns, "FROM subscriptions",
    "WHERE (pending_plan_id IS NOT NULL OR pending_max_seats IS NOT NULL)",
    "  AND ($1::timestamptz IS NULL OR period_end <= $1)", "ORDER BY period_end"]

def expireSubscriptionsSql : String :=
  block 12 ["UPDATE subscriptions", "SET status = $1, updated_at = $2, version = version + 1",
    "WHERE status = ANY($3) AND period_end < $4"]

def insertInvoiceSql : String :=
  block 12 ["INSERT INTO invoices (id, company_id, subscription_id, provider_invoice_id,",
    "    invoice_url, status, purpose, plan_id, seats, amount, payment_method,",
    "    payment_channel, created_at, expires_at, paid_at)",
    "VALUES ($1, $2, $3, $4, $5, $6, $7, $8, $9, $10, $11, $12, $13, $14, $15)"]

def getInvoiceSql : String := "SELECT " ++ invoiceColumns ++ " FROM invoices WHERE id = $1"

def invoiceByProviderIdSql : String :=
  "SELECT " ++ invoiceColumns ++ " FROM invoices WHERE provider_invoice_id = $1"

def pendingInvoiceSql : String :=
  "SELECT " ++ invoiceColumns ++ " FROM invoices WHERE company_id = $1 AND status = 'pending' LIMIT 1"

def countPendingSql : String :=
  "SELECT COUNT(*) FROM invoices WHERE company_id = $1 AND status = 'pending'"

def listInvoicesSql : String :=
  "SELECT " ++ invoiceColumns ++ " FROM invoices WHERE company_id = $1 ORDER BY created_at DESC"

def attachProviderInvoiceSql : String :=
  block 12 ["UPDATE invoices", "SET provider_invoice_id = $1, invoice_url = $2, expires_at = $3",
    "WHERE id = $4"]

def transitionInvoiceSql : String :=
  block 12 ["UPDATE invoices", "SET status = $1,", "    paid_at = COALESCE($2, paid_at),",
    "    payment_method = COALESCE($3, payment_method),",
    "    payment_channel = COALESCE($4, payment_channel)", "WHERE id = $5 AND status = 'pending'"]

def lockInvoiceSql : String := "SELECT status FROM invoices WHERE id = $1 FOR UPDATE"

def markPaidSql : String :=
  block 12 ["UPDATE invoices",
    "SET status = 'paid', paid_at = $1, payment_method = $2, payment_channel = $3,",
    "    subscription_id = $4", "WHERE id = $5"]

def stalePendingSql : String :=
  "SELECT " ++ invoiceColumns ++
    " FROM invoices WHERE status = 'pending' AND created_at < $1 ORDER BY created_at"

def multiplePendingSql : String :=
  block 12 ["SELECT company_id, COUNT(*)", "FROM invoices", "WHERE status = 'pending'",
    "GROUP BY company_id", "HAVING COUNT(*) > 1"]

def paidWithoutTimeSql : String :=
  "SELECT " ++ invoiceColumns ++ " FROM invoices WHERE status = 'paid' AND paid_at IS NULL"

def appendEventSql : String :=
  block 12 ["INSERT INTO billing_events (id, company_id, subscription_id, invoice_id,",
    "    event_type, actor_type, data, created_at)", "VALUES ($1, $2, $3, $4, $5, $6, $7, $8)"]

def listEventsSql : String :=
  block 12 ["SELECT id, company_id, subscription_id, invoice_id, event_type, actor_type,",
    "       data, created_at", "FROM billing_events", "WHERE company_id = $1", "ORDER BY created_at DESC"]

def countActiveSql : String :=
  "SELECT COUNT(*) FROM employees WHERE company_id = $1 AND status = 'active'"

/-- The unique index that allows one pending invoice per company. -/
def onePendingIndex : String := "idx_invoices_one_pending_per_company"

/-! ## Reading rows -/

/-- A required text field. -/
def text (row : Row) (name : String) : StoreM String := field (row.required (.named name) .text Value.text?)

/-- An optional text field. -/
def optText (row : Row) (name : String) : StoreM (Option String) :=
  field (row.optional (.named name) .text Value.text?)

/-- A required identifier field. -/
def uuid (row : Row) (name : String) : StoreM Uuid := field (row.required (.named name) .uuid Value.uuid?)

/-- An optional identifier field. -/
def optUuid (row : Row) (name : String) : StoreM (Option Uuid) :=
  field (row.optional (.named name) .uuid Value.uuid?)

/-- A required moment field. -/
def moment (row : Row) (name : String) : StoreM Moment := do
  momentOf (← field (row.required (.named name) .timestamptz Value.micros?))

/-- An optional moment field. -/
def optMoment (row : Row) (name : String) : StoreM (Option Moment) := do
  match ← field (row.optional (.named name) .timestamptz Value.micros?) with
  | some micros => return some (← momentOf micros)
  | none => return none

/-- A plan without its features. -/
def planOf (row : Row) : StoreM Plan := do
  let id ← text row "id"
  let name ← text row "name"
  let price ← field (row.required (.named "price") .int8 Value.int8?)
  let extraSeat ← field (row.required (.named "price_per_extra_seat") .int8 Value.int8?)
  let seats ← field (row.required (.named "max_seats_included") .int4 Value.int4?)
  let active ← field (row.required (.named "active") .bool Value.bool?)
  return ⟨id, name, price, extraSeat, seats, active, []⟩

/-- A subscription, or the corrupt value that keeps its row from being one. -/
def subscriptionOf (row : Row) : StoreM (Except Failure Subscription) := do
  let id ← uuid row "id"
  let company ← uuid row "company_id"
  let plan ← text row "plan_id"
  let status ← text row "status"
  let maxSeats ← field (row.required (.named "max_seats") .int4 Value.int4?)
  let pendingMaxSeats ← field (row.optional (.named "pending_max_seats") .int4 Value.int4?)
  let pendingPlan ← optText row "pending_plan_id"
  let periodStart ← moment row "period_start"
  let periodEnd ← moment row "period_end"
  let createdAt ← moment row "created_at"
  let updatedAt ← moment row "updated_at"
  let version ← field (row.required (.named "version") .int8 Value.int8?)
  return (SubscriptionStatus.parse status).mapError corrupt |>.map fun status =>
    ⟨id, company, plan, status, maxSeats, pendingMaxSeats, pendingPlan, periodStart, periodEnd,
      createdAt, updatedAt, version⟩

/-- An invoice, or the corrupt value that keeps its row from being one. -/
def invoiceOf (row : Row) : StoreM (Except Failure Invoice) := do
  let id ← uuid row "id"
  let company ← uuid row "company_id"
  let subscription ← optUuid row "subscription_id"
  let providerInvoiceId ← optText row "provider_invoice_id"
  let invoiceUrl ← optText row "invoice_url"
  let status ← text row "status"
  let purpose ← text row "purpose"
  let plan ← text row "plan_id"
  let seats ← field (row.required (.named "seats") .int4 Value.int4?)
  let amount ← field (row.required (.named "amount") .int8 Value.int8?)
  let method ← optText row "payment_method"
  let channel ← optText row "payment_channel"
  let createdAt ← moment row "created_at"
  let expiresAt ← optMoment row "expires_at"
  let paidAt ← optMoment row "paid_at"
  return do
    let status ← (InvoiceStatus.parse status).mapError corrupt
    let purpose ← (InvoicePurpose.parse purpose).mapError corrupt
    pure ⟨id, company, subscription, providerInvoiceId, invoiceUrl, status, purpose, plan, seats,
      amount, method, channel, createdAt, expiresAt, paidAt⟩

/-- An event, or the unknown kind that keeps its row from being one. -/
def eventOf (row : Row) : StoreM (Except Failure Event) := do
  let id ← uuid row "id"
  let company ← uuid row "company_id"
  let subscription ← optUuid row "subscription_id"
  let invoice ← optUuid row "invoice_id"
  let kind ← text row "event_type"
  let actor ← text row "actor_type"
  let data ← field (row.required (.named "data") .jsonb Value.jsonb?)
  let createdAt ← moment row "created_at"
  return match EventKind.parse? kind with
    | some kind => .ok ⟨id, company, subscription, invoice, kind, Actor.parse actor, data, createdAt⟩
    | none => .error (.internal ("Unknown billing event type '" ++ kind ++ "'"))

/-- The subscription of the first row, if there is one. -/
def oneSubscription (sql : String) : StoreM (Option Subscription) := do
  match ← exchange (fetchOptional sql) with
  | some row => return some (← record (← subscriptionOf row))
  | none => return none

/-- The subscriptions of all rows. -/
def subscriptions (sql : String) : StoreM (List Subscription) := do
  let rows ← exchange (fetchAll sql)
  allRecords (← rows.mapM subscriptionOf)

/-- The invoice of the first row, if there is one. -/
def oneInvoice (sql : String) : StoreM (Option Invoice) := do
  match ← exchange (fetchOptional sql) with
  | some row => return some (← record (← invoiceOf row))
  | none => return none

/-- The invoices of all rows. -/
def invoices (sql : String) : StoreM (List Invoice) := do
  let rows ← exchange (fetchAll sql)
  allRecords (← rows.mapM invoiceOf)

/-- The whole number in the first field of a statement's first row, which it must give. -/
def count (sql : String) : StoreM Int := do
  let row ← exchange (fetchOne sql)
  field (row.required (.position 0) .int8 Value.int8?)

/-! ## Operations -/

/-- The features of each plan, filled row by row: each row's feature goes to the end of the
list kept under its plan's id. -/
def fillGroups (groups : Std.HashMap String (List Feature)) : List (String × Feature) → Std.HashMap String (List Feature)
  | [] => groups
  | (plan, feature) :: listed => fillGroups (groups.insert plan (groups.getD plan [] ++ [feature])) listed

/-- Each plan takes the list kept under its id out of the map, so a plan listed again later
finds no features. -/
def takeFeatures (groups : Std.HashMap String (List Feature)) : List Plan → List Plan
  | [] => []
  | plan :: plans => { plan with features := groups.getD plan.id [] } :: takeFeatures (groups.erase plan.id) plans

/-- The plans with their features: the feature rows of all the plans are fetched at once,
grouped by plan and handed out to the plans in order. -/
def withFeatures (plans : List Plan) : StoreM (List Plan) := do
  if plans.isEmpty then return []
  let rows ← exchange (fetchAll planFeaturesSql)
  let listed ← rows.mapM fun row => do
    let plan ← text row "plan_id"
    let code ← text row "code"
    let name ← text row "name"
    return (plan, (⟨code, name⟩ : Feature))
  return takeFeatures (fillGroups ∅ listed) plans

def listPlans : StoreM (List Plan) := do
  let rows ← exchange (fetchAll listPlansSql)
  withFeatures (← rows.mapM planOf)

def getPlan : StoreM (Option Plan) := do
  match ← exchange (fetchOptional getPlanSql) with
  | some row => return (← withFeatures [← planOf row]).head?
  | none => return none

def getFeature : StoreM (Option Feature) := do
  match ← exchange (fetchOptional getFeatureSql) with
  | some row =>
    let code ← field (row.required (.position 0) .text Value.text?)
    let name ← field (row.required (.position 1) .text Value.text?)
    return some ⟨code, name⟩
  | none => return none

def getSubscription : StoreM (Option Subscription) := oneSubscription getSubscriptionSql

def getSubscriptionByCompany : StoreM (Option Subscription) := oneSubscription subscriptionOfCompanySql

/-- Writes a subscription inside the open transaction; whether it touched exactly one row. -/
def writeSubscription (write : SubscriptionWrite) : StoreM Bool := do
  let sql := match write with
    | .insert _ => insertSubscriptionSql
    | .update _ _ => updateSubscriptionSql
  return (← exchange (execute sql)) == 1

def insertSubscription (subscription : Subscription) : StoreM Unit :=
  inTransaction do
    if !(← writeSubscription (.insert subscription)) then
      reject (.conflict ("Company " ++ subscription.company.hyphenated ++ " already has a subscription"))
    exchange commitTransaction

def updateSubscription (subscription : Subscription) (expectedVersion : Int) : StoreM Bool :=
  inTransaction do
    let updated ← writeSubscription (.update subscription expectedVersion)
    exchange commitTransaction
    return updated

def listExpiring : StoreM (List Subscription) := subscriptions listExpiringSql

def listWithPendingChanges : StoreM (List Subscription) := subscriptions pendingChangesSql

def updateExpiredToStatus : StoreM Nat := exchange (execute expireSubscriptionsSql)

def insertInvoice (invoice : Invoice) : StoreM Unit := do
  match ← attempt (execute insertInvoiceSql) with
  | .ok _ => pure ()
  | .error error =>
    if error.breaksUnique onePendingIndex then reject (.duplicatePendingInvoice invoice.company)
    else reject (.database error.message)

def getInvoice : StoreM (Option Invoice) := oneInvoice getInvoiceSql

def getInvoiceByProviderId : StoreM (Option Invoice) := oneInvoice invoiceByProviderIdSql

def findPendingInvoice : StoreM (Option Invoice) := oneInvoice pendingInvoiceSql

def countPendingInvoices : StoreM Int := count countPendingSql

def listInvoices : StoreM (List Invoice) := invoices listInvoicesSql

def attachProviderInvoice (id : Uuid) : StoreM Unit := do
  if (← exchange (execute attachProviderInvoiceSql)) == 0 then
    reject (.notFound ("Invoice " ++ id.hyphenated ++ " not found"))

def transitionInvoice (target : InvoiceStatus) (payment : Option Payment) : StoreM Bool := do
  if target == .paid && payment.isNone then
    reject (.invalidInput "Paid transition needs payment details")
  return (← exchange (execute transitionInvoiceSql)) == 1

/-- Settles an invoice: under the lock on its row, an invoice that is still pending has the
subscription written and is marked paid. A subscription write that touches no row rolls the
transaction back and reports the race. -/
def settleInvoice (id : Uuid) (write : SubscriptionWrite) : StoreM Bool := do
  let settled : Except Failure Bool ← inTransaction do
    let status ← match ← exchange (fetchOptional lockInvoiceSql) with
      | some row => some <$> field (row.required (.position 0) .text Value.text?)
      | none => pure none
    if status != some InvoiceStatus.pending.name then
      exchange rollbackTransaction
      return .ok false
    if !(← writeSubscription write) then
      exchange rollbackTransaction
      return .error (.concurrentModification ("subscription for company " ++
        write.subscription.company.hyphenated ++ " changed while settling invoice " ++ id.hyphenated))
    let _ ← exchange (execute markPaidSql)
    exchange commitTransaction
    return .ok true
  record settled

def listStalePendingInvoices : StoreM (List Invoice) := invoices stalePendingSql

def companiesWithMultiplePendingInvoices : StoreM (List (Uuid × Int)) := do
  let rows ← exchange (fetchAll multiplePendingSql)
  rows.mapM fun row => do
    let company ← field (row.required (.position 0) .uuid Value.uuid?)
    let count ← field (row.required (.position 1) .int8 Value.int8?)
    return (company, count)

def paidInvoicesMissingPaidAt : StoreM (List Invoice) := invoices paidWithoutTimeSql

def appendEvent : StoreM Unit := do
  let _ ← exchange (execute appendEventSql)

def listEvents : StoreM (List Event) := do
  let rows ← exchange (fetchAll listEventsSql)
  allRecords (← rows.mapM eventOf)

/-- The number of a company's active employees, from the employee directory's table. -/
def countActive : StoreM Int := count countActiveSql

end SeatBilling.SqlStore
