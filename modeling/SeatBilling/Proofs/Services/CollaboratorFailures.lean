import SeatBilling.Proofs.Calls

/-!
# Collaborator calls fail only as collaborators do

A call to a collaborator (the store, the employee directory) ends with a value, with a halt of
time or range, or with a failure. Its failures are a collaborator's: a database or an internal
failure of the store, or the failure that a fault armed for the call stands for, which may also
be a provider's, a time limit's or a racing writer's (`Failure.OfCollaborator`). None of them
is a refusal that the core decides itself, such as a missing subscription or a full seat count,
so a caller tells the two apart by kind alone.

On the database a store step reads a row field by field; `SqlStore.Reads` follows such a step
along its binds. `FailsAsCollaborator` does the same for the core's actions, through the fault
a guarded call may take and the backend that answers it.
-/

namespace SeatBilling

open SeatBilling.Time

/-- A failure a collaborator call can end with: the store's, the provider's, a time limit's, a
racing writer's, or an internal one. None of them refuses access. -/
def Failure.OfCollaborator : Failure → Prop
  | .database _ | .internal _ | .timedOut _ | .providerUnavailable _ | .providerRejected _
  | .concurrentModification _ => True
  | _ => False

theorem Fault.failure_ofCollaborator {fault : Fault} {failure : Failure} (fails : fault.failure = some failure) :
    failure.OfCollaborator := by
  unfold Fault.failure at fails
  split at fails <;> cases fails <;> trivial

namespace SqlStore

open SeatBilling.Database

variable {α β : Type}

theorem run_bind (step : StoreM α) (next : α → StoreM β) (link : Link) :
    (step >>= next).run.run link =
      match step.run.run link with
      | (.ok value, after) => (next value).run.run after
      | (.error halt, after) => (.error halt, after) := by
  simp only [ExceptT.run_bind, StateT.run_bind]
  rcases step.run.run link with ⟨_ | _, after⟩ <;> rfl

theorem lift_run (step : StateM Link α) (link : Link) :
    ((monadLift step : StoreM α).run).run link = (.ok (step.run link).1, (step.run link).2) := rfl

/-- A session step run for the store: a database error becomes a database failure. -/
theorem exchange_run (step : Exchange α) (link : Link) :
    (exchange step).run.run link =
      match step.run.run link with
      | (.ok value, after) => (.ok value, after)
      | (.error (.failed error), after) => (.error (.failed (.database error.message)), after)
      | (.error .overflow, after) => (.error .overflow, after) := by
  unfold exchange
  simp only [ExceptT.run_bind, liftM, StateT.run_bind, lift_run]
  rcases step.run.run link with ⟨(abort | value), after⟩
  · cases abort <;> rfl
  · rfl

/-- A step on the database that gives a value satisfying `gives`, or fails as the store does
(with a database or an internal failure), or halts. -/
def Reads (gives : α → Prop) (step : StoreM α) : Prop :=
  ∀ link, match step.run.run link with
    | (.ok value, _) => gives value
    | (.error (.failed failure), _) => failure.OfCollaborator
    | (.error _, _) => True

namespace Reads

variable {gives : α → Prop}

theorem failed {step : StoreM α} (reads : Reads gives step) {link after : Link} {failure : Failure}
    (failing : step.run.run link = (.error (.failed failure), after)) : failure.OfCollaborator := by
  have holds := reads link
  rw [failing] at holds
  exact holds

theorem pure {value : α} (holds : gives value) : Reads gives (Pure.pure value) :=
  fun _ => holds

theorem bind {first : StoreM α} {next : α → StoreM β} {mid : α → Prop} {gives : β → Prop}
    (reads : Reads mid first) (rest : ∀ value, mid value → Reads gives (next value)) :
    Reads gives (first >>= next) := by
  intro link
  have holds := reads link
  rw [run_bind]
  rcases ran : first.run.run link with ⟨halt | value, after⟩
  · rw [ran] at holds
    cases halt <;> exact holds
  · rw [ran] at holds
    exact rest value holds after

theorem exchange (step : Exchange α) : Reads (fun _ => True) (SqlStore.exchange step) := by
  intro link
  rw [exchange_run]
  rcases step.run.run link with ⟨(abort | value), after⟩
  · cases abort <;> trivial
  · trivial

theorem field (reading : Except DbError α) : Reads (fun _ => True) (SqlStore.field reading) :=
  exchange _

theorem momentOf (micros : Int) : Reads (fun _ => True) (SqlStore.momentOf micros) := by
  intro link
  unfold SqlStore.momentOf
  cases Moment.ofWall? ((timestampEpoch * 1000000 + micros) * 1000) 0 <;> trivial

theorem record {read : Except Failure α} (refused : ∀ failure, read = .error failure → failure.OfCollaborator) :
    Reads (fun _ => True) (SqlStore.record read) := by
  intro link
  cases read with
  | ok value => trivial
  | error failure => exact refused failure rfl

/-- A record whose stored name is of no known value is refused as corrupt: an internal failure. -/
theorem corrupt_ofCollaborator {β γ : Type} {read : Except UnknownName β} {build : β → γ} {failure : Failure}
    (refused : ((read.mapError SqlStore.corrupt).map build) = .error failure) : failure.OfCollaborator := by
  cases read with
  | error unknown =>
    cases refused
    trivial
  | ok value => cases refused

theorem uuid (row : Row) (name : String) : Reads (fun _ => True) (SqlStore.uuid row name) := field _

theorem text (row : Row) (name : String) : Reads (fun _ => True) (SqlStore.text row name) := field _

theorem optText (row : Row) (name : String) : Reads (fun _ => True) (SqlStore.optText row name) := field _

theorem moment (row : Row) (name : String) : Reads (fun _ => True) (SqlStore.moment row name) :=
  Reads.bind (field _) fun _ _ => momentOf _

/-- A subscription row reads as a subscription or as a corrupt stored value, an internal failure. -/
theorem subscriptionOf (row : Row) :
    Reads (fun read => ∀ failure, read = .error failure → failure.OfCollaborator) (SqlStore.subscriptionOf row) := by
  unfold SqlStore.subscriptionOf
  -- the fields are read in the order of the record's, and none gives anything to keep track of
  refine Reads.bind (uuid row "id") fun _ _ => Reads.bind (uuid row "company_id") fun _ _ => ?_
  refine Reads.bind (text row "plan_id") fun _ _ => Reads.bind (text row "status") fun _ _ => ?_
  refine Reads.bind (field _) fun _ _ => Reads.bind (field _) fun _ _ => ?_
  refine Reads.bind (optText row "pending_plan_id") fun _ _ => ?_
  refine Reads.bind (moment row "period_start") fun _ _ => Reads.bind (moment row "period_end") fun _ _ => ?_
  refine Reads.bind (moment row "created_at") fun _ _ => Reads.bind (moment row "updated_at") fun _ _ => ?_
  exact Reads.bind (field _) fun _ _ => Reads.pure fun failure parsed => corrupt_ofCollaborator parsed

/-- The company's subscription, read from its row if it has one. -/
theorem oneSubscription (sql : String) : Reads (fun _ => True) (SqlStore.oneSubscription sql) := by
  unfold SqlStore.oneSubscription
  refine Reads.bind (exchange _) fun found _ => ?_
  cases found with
  | some row =>
    exact Reads.bind (subscriptionOf row) fun _ refused => Reads.bind (record refused) fun _ _ => Reads.pure trivial
  | none => exact Reads.pure trivial

theorem count (sql : String) : Reads (fun _ => True) (SqlStore.count sql) :=
  Reads.bind (exchange _) fun _ _ => field _

theorem mono {step : StoreM α} {weaker : α → Prop} (reads : Reads gives step)
    (weakens : ∀ value, gives value → weaker value) : Reads weaker step := by
  intro link
  have holds := reads link
  rcases ran : step.run.run link with ⟨halt | value, after⟩
  · rw [ran] at holds
    cases halt <;> exact holds
  · rw [ran] at holds
    exact weakens value holds

/-- Reads of the items one after another: every value read is one the read of its item gives. -/
theorem mapM {f : β → StoreM α} (each : ∀ item, Reads gives (f item)) :
    ∀ items : List β, Reads (fun results => ∀ result ∈ results, gives result) (items.mapM f) := by
  intro items
  induction items with
  | nil =>
    rw [List.mapM_nil]
    exact Reads.pure nofun
  | cons item rest inductionHypothesis =>
    rw [List.mapM_cons]
    exact Reads.bind (each item) fun first firstGiven => Reads.bind inductionHypothesis fun others othersGiven =>
      Reads.pure fun result member => (List.mem_cons.mp member).elim (· ▸ firstGiven) (othersGiven result)

/-- The failure that stops a list of records from being kept is one of the records'. -/
theorem mapM_id_error {ε : Type} : ∀ {records : List (Except ε α)} {failure : ε},
    records.mapM id = .error failure → .error failure ∈ records := by
  intro records
  induction records with
  | nil =>
    intro failure failed
    cases failed
  | cons first rest inductionHypothesis =>
    intro failure failed
    rw [List.mapM_cons] at failed
    cases first with
    | error error =>
      cases failed
      exact List.mem_cons_self
    | ok value =>
      cases later : rest.mapM id with
      | error error =>
        rw [later] at failed
        cases failed
        exact List.mem_cons_of_mem _ (inductionHypothesis later)
      | ok values =>
        rw [later] at failed
        cases failed

/-- Records read from rows are kept, or refused with the failure of one of them. -/
theorem allRecords {records : List (Except Failure α)}
    (refused : ∀ read ∈ records, ∀ failure, read = .error failure → failure.OfCollaborator) :
    Reads (fun _ => True) (SqlStore.allRecords records) := by
  intro link
  unfold SqlStore.allRecords
  cases kept : records.mapM id with
  | ok values => trivial
  | error failure => exact refused _ (mapM_id_error kept) failure rfl

theorem optUuid (row : Row) (name : String) : Reads (fun _ => True) (SqlStore.optUuid row name) := field _

theorem optMoment (row : Row) (name : String) : Reads (fun _ => True) (SqlStore.optMoment row name) := by
  unfold SqlStore.optMoment
  refine Reads.bind (field _) fun micros _ => ?_
  cases micros with
  | some micros => exact Reads.bind (momentOf micros) fun _ _ => Reads.pure trivial
  | none => exact Reads.pure trivial

/-- An invoice row reads as an invoice or as a corrupt stored value, an internal failure. -/
theorem invoiceOf (row : Row) :
    Reads (fun read => ∀ failure, read = .error failure → failure.OfCollaborator) (SqlStore.invoiceOf row) := by
  unfold SqlStore.invoiceOf
  -- only the stored status and purpose are kept track of: their names are parsed at the end
  refine Reads.bind (uuid row "id") fun _ _ => Reads.bind (uuid row "company_id") fun _ _ => ?_
  refine Reads.bind (optUuid row "subscription_id") fun _ _ => ?_
  refine Reads.bind (optText row "provider_invoice_id") fun _ _ => Reads.bind (optText row "invoice_url") fun _ _ => ?_
  refine Reads.bind (text row "status") fun status _ => Reads.bind (text row "purpose") fun purpose _ => ?_
  refine Reads.bind (text row "plan_id") fun _ _ => Reads.bind (field _) fun _ _ => Reads.bind (field _) fun _ _ => ?_
  refine Reads.bind (optText row "payment_method") fun _ _ => Reads.bind (optText row "payment_channel") fun _ _ => ?_
  refine Reads.bind (moment row "created_at") fun _ _ => Reads.bind (optMoment row "expires_at") fun _ _ => ?_
  refine Reads.bind (optMoment row "paid_at") fun _ _ => Reads.pure fun failure parsed => ?_
  cases statusParse : InvoiceStatus.parse status with
  | error unknown =>
    rw [statusParse] at parsed
    cases parsed
    trivial
  | ok status =>
    rw [statusParse] at parsed
    cases purposeParse : InvoicePurpose.parse purpose with
    | error unknown =>
      rw [purposeParse] at parsed
      cases parsed
      trivial
    | ok purpose =>
      rw [purposeParse] at parsed
      cases parsed

/-- The subscriptions of all rows, or a failure of the store. -/
theorem subscriptions (sql : String) : Reads (fun _ => True) (SqlStore.subscriptions sql) := by
  unfold SqlStore.subscriptions
  exact Reads.bind (exchange _) fun rows _ =>
    Reads.bind (mapM subscriptionOf rows) fun _ refused => allRecords refused

/-- The invoices of all rows, or a failure of the store. -/
theorem invoices (sql : String) : Reads (fun _ => True) (SqlStore.invoices sql) := by
  unfold SqlStore.invoices
  exact Reads.bind (exchange _) fun rows _ =>
    Reads.bind (mapM invoiceOf rows) fun _ refused => allRecords refused

theorem planOf (row : Row) : Reads (fun _ => True) (SqlStore.planOf row) := by
  unfold SqlStore.planOf
  refine Reads.bind (text row "id") fun _ _ => Reads.bind (text row "name") fun _ _ => ?_
  refine Reads.bind (field _) fun _ _ => Reads.bind (field _) fun _ _ => ?_
  exact Reads.bind (field _) fun _ _ => Reads.bind (field _) fun _ _ => Reads.pure trivial

theorem withFeatures (plans : List Plan) : Reads (fun _ => True) (SqlStore.withFeatures plans) := by
  unfold SqlStore.withFeatures
  split
  · exact Reads.pure trivial
  · refine Reads.bind (exchange _) fun rows _ => Reads.bind (mapM (fun row => (?_ : Reads (fun _ => True) _)) rows)
      fun _ _ => ?_
    · exact Reads.bind (text row "plan_id") fun _ _ => Reads.bind (text row "code") fun _ _ =>
        Reads.bind (text row "name") fun _ _ => Reads.pure trivial
    · exact Reads.pure trivial

/-- A plan by id, with its features, or a failure of the store. -/
theorem getPlan : Reads (fun _ => True) SqlStore.getPlan := by
  unfold SqlStore.getPlan
  refine Reads.bind (exchange _) fun found _ => ?_
  cases found with
  | some row =>
    exact Reads.bind (planOf row) fun plan _ => Reads.bind (withFeatures [plan]) fun _ _ => Reads.pure trivial
  | none => exact Reads.pure trivial

theorem companiesWithMultiplePendingInvoices :
    Reads (fun _ => True) SqlStore.companiesWithMultiplePendingInvoices := by
  unfold SqlStore.companiesWithMultiplePendingInvoices
  refine Reads.bind (exchange _) fun rows _ => (mapM (fun row => (?_ : Reads (fun _ => True) _)) rows).mono fun _ _ => trivial
  exact Reads.bind (field _) fun _ _ => Reads.bind (field _) fun _ _ => Reads.pure trivial

end Reads

end SqlStore

/-- Every failure the action ends with is a collaborator's. -/
def FailsAsCollaborator {α : Type} (action : BillingM α) : Prop :=
  ∀ world failure after, action.run.run world = (.error (.failed failure), after) → failure.OfCollaborator

namespace FailsAsCollaborator

variable {α : Type}

theorem pure (value : α) : FailsAsCollaborator (Pure.pure value : BillingM α) := by
  intro world failure after failed
  cases failed

theorem bind {β : Type} {first : BillingM α} {next : α → BillingM β} (fails : FailsAsCollaborator first)
    (rest : ∀ value, FailsAsCollaborator (next value)) : FailsAsCollaborator (first >>= next) := by
  intro world failure after failed
  rw [run_bind] at failed
  rcases ran : first.run.run world with ⟨halt | value, middle⟩
  · rw [ran] at failed
    cases failed
    exact fails world failure _ ran
  · rw [ran] at failed
    exact rest value middle failure after failed

theorem readStore (view : Store → α) : FailsAsCollaborator (Calls.readStore view) := by
  intro world failure after failed
  cases failed

/-- A slow call only ever runs out of time. -/
theorem slowCall : FailsAsCollaborator SeatBilling.slowCall := by
  intro world failure after failed
  unfold SeatBilling.slowCall at failed
  simp only [run_bind, run_get] at failed
  split at failed
  · cases failed
  · split at failed <;> cases failed

theorem onDatabase {gives : α → Prop} {step : SqlStore.StoreM α} (reads : SqlStore.Reads gives step)
    (connection : Option Database.Connection) : FailsAsCollaborator (Calls.onDatabase connection step) := by
  intro world failure after failed
  unfold Calls.onDatabase at failed
  simp only [run_bind, run_get] at failed
  split at failed
  · cases failed
  · rcases stepped : step.run.run ⟨world.server, connection⟩ with ⟨result, link⟩
    rw [stepped] at failed
    simp only [run_bind, run_set] at failed
    cases result with
    | ok value => cases failed
    | error halt =>
      cases failed
      exact reads.failed stepped

theorem backed {onMemory : BillingM α} {gives : α → Prop} {step : SqlStore.StoreM α}
    (memory : FailsAsCollaborator onMemory) (reads : SqlStore.Reads gives step) :
    FailsAsCollaborator (Calls.backed onMemory step) := by
  unfold Calls.backed
  refine bind (fun world failure after failed => by cases failed) fun world => ?_
  cases world.backend with
  | memory => exact memory
  | database connection => exact onDatabase reads connection

theorem guarded {call : Call} {onStale onSkip onMissing : Option α} {work : BillingM α}
    (fails : FailsAsCollaborator work) : FailsAsCollaborator (SeatBilling.guarded call onStale onSkip onMissing work) := by
  have answered : ∀ answer : Option α, FailsAsCollaborator (answer.elim work Pure.pure) := by
    intro answer
    cases answer with
    | none => exact fails
    | some value => exact pure value
  unfold SeatBilling.guarded
  refine bind (fun world failure after failed => by cases failed) fun world => ?_
  refine bind (fun world failure after failed => by cases failed) fun _ => ?_
  -- a fault either fails the call itself, or lets the work run
  split
  · exact fails
  · rename_i fault _
    split
    · rename_i failing
      intro world failure after failed
      cases failed
      exact Fault.failure_ofCollaborator failing
    · split
      · exact bind slowCall fun _ => fails
      · exact answered onStale
      · exact answered onSkip
      · exact answered onMissing
      · exact fails

theorem now : FailsAsCollaborator SeatBilling.now := by
  intro world failure after failed
  cases failed

theorem failWith {failure : Failure} (collaborator : failure.OfCollaborator) :
    FailsAsCollaborator (SeatBilling.failWith failure : BillingM α) := by
  intro world failed after ended
  cases ended
  exact collaborator

/-- A sequence whose rest fails as collaborators do after every value the first action gives. -/
theorem bind_of {β : Type} {first : BillingM α} {next : α → BillingM β} (gives : α → Prop)
    (fails : FailsAsCollaborator first)
    (values : ∀ world value after, first.run.run world = (.ok value, after) → gives value)
    (rest : ∀ value, gives value → FailsAsCollaborator (next value)) : FailsAsCollaborator (first >>= next) := by
  intro world failure after failed
  rw [run_bind] at failed
  rcases ran : first.run.run world with ⟨halt | value, middle⟩
  · rw [ran] at failed
    cases failed
    exact fails world failure _ ran
  · rw [ran] at failed
    exact rest value (values world value middle ran) middle failure after failed

/-- An attempt gives its action's failure as a value, so it never fails itself. -/
theorem attempt (action : BillingM α) : FailsAsCollaborator (SeatBilling.attempt action) := by
  intro world failure after failed
  unfold SeatBilling.attempt at failed
  rw [run_catchFailure] at failed
  rcases ran : (Except.ok <$> action : BillingM (Except Failure α)).run.run world with ⟨halt | value, middle⟩
  · rw [ran] at failed
    cases halt with
    | failed caught => cases failed
    | elapsed => cases failed
    | overflow => cases failed
  · rw [ran] at failed
    cases failed

/-- A loop fails as collaborators do when each of its steps does. -/
theorem foldlM {β : Type} {step : β → α → BillingM β}
    (each : ∀ accumulated item, FailsAsCollaborator (step accumulated item)) :
    ∀ (items : List α) (start : β), FailsAsCollaborator (items.foldlM step start) := by
  intro items
  induction items with
  | nil => exact fun start => pure start
  | cons item rest inductionHypothesis =>
    intro start
    rw [List.foldlM_cons]
    exact bind (each start item) fun next => inductionHypothesis next

end FailsAsCollaborator

namespace Calls

theorem getSubscriptionByCompany_fails (company : Uuid) : FailsAsCollaborator (getSubscriptionByCompany company) :=
  .guarded (.backed (.readStore _) (SqlStore.Reads.oneSubscription _))

theorem countActive_fails (company : Uuid) : FailsAsCollaborator (countActive company) :=
  .guarded (.backed (.bind (fun world failure after failed => by cases failed) fun _ => .pure _)
    (SqlStore.Reads.count _))

theorem getPlan_fails (id : String) : FailsAsCollaborator (getPlan id) :=
  .guarded (.backed (.readStore _) SqlStore.Reads.getPlan)

theorem listWithPendingChanges_fails (dueBy : Option Time.Moment) :
    FailsAsCollaborator (listWithPendingChanges dueBy) :=
  .guarded (.backed (.readStore _) (SqlStore.Reads.subscriptions _))

theorem paidInvoicesMissingPaidAt_fails : FailsAsCollaborator paidInvoicesMissingPaidAt :=
  .guarded (.backed (.readStore _) (SqlStore.Reads.invoices _))

theorem companiesWithMultiplePendingInvoices_fails : FailsAsCollaborator companiesWithMultiplePendingInvoices :=
  .guarded (.backed (.readStore _) SqlStore.Reads.companiesWithMultiplePendingInvoices)

end Calls

end SeatBilling
