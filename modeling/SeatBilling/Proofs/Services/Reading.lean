import SeatBilling.Proofs.Ledger.Changes

/-!
# Reads, and the writes between them

Most of an operation only reads: the catalog, the company's subscription, an invoice, the
clock, the configuration, the headcount. `Observes action gives` says the action changes no
facts, whatever its outcome and whatever fault it meets, and that a value it gives satisfies
`gives` on the facts it read. A lookup that fails when it finds nothing gives the record the
store holds, since no fault answers a lookup with a record.

Between the reads stand a few writes: `save` writes a subscription back, `EventLog.record`
draws an identifier and appends an event. Each ends where `Facts.Wrote` says, so each keeps
the facts reached from a start when the call it makes is allowed there.
-/

namespace SeatBilling

open SeatBilling.Time

variable {α β : Type} {now : Moment} {headcount : List (Uuid × Int)}

/-- The action changes no facts, whatever its outcome, and a value it gives satisfies `gives`
on the facts it read. -/
def Observes (now : Moment) (headcount : List (Uuid × Int)) (action : BillingM α) (gives : α → Facts → Prop) :
    Prop :=
  ∀ pre, Runs now headcount pre action (fun value facts => pre facts ∧ gives value facts) pre

namespace Observes

variable {pre : Facts → Prop} {post : β → Facts → Prop} {ends : Facts → Prop}

theorem mono {action : BillingM α} {gives weaker : α → Facts → Prop} (reads : Observes now headcount action gives)
    (weakens : ∀ value facts, gives value facts → weaker value facts) : Observes now headcount action weaker :=
  fun pre => (reads pre).mono (fun _ holds => holds)
    (fun value facts ⟨holds, given⟩ => ⟨holds, weakens value facts given⟩) fun _ holds => holds

/-- A read, then an action that may use what the read gave. -/
theorem bind {action : BillingM α} {next : α → BillingM β} {gives : α → Facts → Prop}
    (reads : Observes now headcount action gives)
    (rest : ∀ value, Runs now headcount (fun facts => pre facts ∧ gives value facts) (next value) post ends)
    (stops : ∀ facts, pre facts → ends facts) : Runs now headcount pre (action >>= next) post ends :=
  Runs.bind ((reads pre).mono (fun _ holds => holds) (fun _ _ given => given) stops) rest

/-- Two reads in a row read. -/
theorem andThen {action : BillingM α} {next : α → BillingM β} {gives : α → Facts → Prop}
    (givesNext : α → β → Facts → Prop) (reads : Observes now headcount action gives)
    (rest : ∀ value, Observes now headcount (next value) (givesNext value)) :
    Observes now headcount (action >>= next) fun result facts => ∃ value, gives value facts ∧ givesNext value result facts :=
  fun _ => bind reads (fun value => (rest value _).mono (fun _ holds => holds)
    (fun _ _ ⟨⟨holds, given⟩, givenNext⟩ => ⟨holds, value, given, givenNext⟩) fun _ holds => holds.1)
    fun _ holds => holds

/-- A read keeps whatever held. -/
theorem keeps {action : BillingM α} {gives : α → Facts → Prop} (reads : Observes now headcount action gives) :
    Runs now headcount pre action (fun _ => pre) pre :=
  (reads pre).mono (fun _ holds => holds) (fun _ _ ⟨holds, _⟩ => holds) fun _ holds => holds

theorem pure (value : α) : Observes now headcount (Pure.pure value) fun result _ => result = value :=
  fun _ => (Runs.pure value).mono (fun _ holds => holds) (fun _ _ ⟨same, holds⟩ => ⟨holds, same⟩) fun _ holds => holds

theorem failWith (failure : Failure) : Observes now headcount (SeatBilling.failWith failure : BillingM α) fun _ _ => False :=
  fun _ => Runs.failWith failure

/-- A failure, then anything: the rest never runs. -/
theorem failWith_bind (failure : Failure) (next : α → BillingM β) {gives : β → Facts → Prop} :
    Observes now headcount (SeatBilling.failWith failure >>= next) gives :=
  fun _ _ settled holds => by
    simp only [run_bind, run_failWith]
    exact ⟨settled, holds, nofun⟩

theorem clock : Observes now headcount SeatBilling.now fun value _ => value = now :=
  fun _ => Runs.clock.mono (fun _ holds => holds) (fun _ _ ⟨same, holds⟩ => ⟨holds, same⟩) fun _ holds => holds

theorem config : Observes now headcount SeatBilling.config fun value facts => value = facts.config :=
  fun _ => Runs.config.mono (fun _ holds => holds) (fun _ _ ⟨same, holds⟩ => ⟨holds, same⟩) fun _ holds => holds

theorem orOverflow (value : Option α) :
    Observes now headcount (SeatBilling.orOverflow value) fun result _ => value = some result :=
  fun _ => (Runs.orOverflow value).mono (fun _ holds => holds) (fun _ _ ⟨same, holds⟩ => ⟨holds, same⟩)
    fun _ holds => holds

theorem emit (level : Log.Level) (target message : String) (fields : List (String × String)) :
    Observes now headcount (SeatBilling.emit level target message fields) fun _ _ => True :=
  fun _ => (Runs.emit level target message fields).mono (fun _ holds => holds) (fun _ _ holds => ⟨holds, trivial⟩)
    fun _ holds => holds

/-- A read of the store gives what the store holds, or the answer kept for a fault. -/
theorem readCall (call : Call) (onStale onSkip onMissing : Option α) (view : Store → α)
    (onDatabase : SqlStore.StoreM α) :
    Observes now headcount
      (SeatBilling.guarded call onStale onSkip onMissing (Calls.backed (Calls.readStore view) onDatabase))
      fun value facts => value = view facts.store ∨ onStale = some value ∨ onSkip = some value ∨ onMissing = some value :=
  fun _ => (Runs.readCall call onStale onSkip onMissing view onDatabase).mono (fun _ holds => holds)
    (fun _ _ ⟨given, holds⟩ => ⟨holds, given⟩) fun _ holds => holds

theorem countActive (company : Uuid) :
    Observes now headcount (Calls.countActive company) fun value _ => value = activeEmployees headcount company :=
  fun _ => (Runs.countActive company).mono (fun _ holds => holds) (fun _ _ ⟨same, holds⟩ => ⟨holds, same⟩)
    fun _ holds => holds

theorem createProviderInvoice (request : ProviderRequest) :
    Observes now headcount (Calls.createProviderInvoice request) fun _ _ => True :=
  fun _ => (Runs.createProviderInvoice request).mono (fun _ holds => holds) (fun _ _ holds => ⟨holds, trivial⟩)
    fun _ holds => holds

/-- A lookup that fails when it finds nothing gives the record the store holds: a fault makes
it find nothing at worst. -/
theorem lookup {call : Call} {view : Store → Option α} {onDatabase : SqlStore.StoreM (Option α)}
    {next : Option α → BillingM α} (found : ∀ value, next (some value) = Pure.pure value)
    (missing : ∃ failure, next none = SeatBilling.failWith failure) :
    Observes now headcount
      (SeatBilling.guarded call none none (some none) (Calls.backed (Calls.readStore view) onDatabase) >>= next)
      fun value facts => view facts.store = some value := by
  obtain ⟨failure, fails⟩ := missing
  refine (andThen (fun result value _ => result = some value) (readCall call none none (some none) view onDatabase)
    fun result => ?_).mono ?_
  · cases result with
    | none =>
      rw [fails]
      exact (failWith failure).mono fun _ _ never => never.elim
    | some value =>
      rw [found]
      exact (pure value).mono fun _ _ same => by rw [same]
  · rintro value facts ⟨result, same | kept | kept | kept, named⟩
    · rw [← same, named]
    all_goals simp_all

end Observes

/-! ## The lookups of the ledger -/

/-- A plan found under an identifier is found under its own. -/
theorem Store.plan?_self {store : Store} {id : String} {plan : Plan} (found : store.plan? id = some plan) :
    store.plan? plan.id = some plan := by
  have named : plan.id = id := by simpa using List.find?_some found
  rw [named]
  exact found

theorem Catalog.getPlan_observes (id : String) :
    Observes now headcount (Catalog.getPlan id) fun plan facts => facts.store.plan? id = some plan :=
  Observes.lookup (fun _ => rfl) ⟨_, rfl⟩

theorem Catalog.getPurchasablePlan_observes (id : String) :
    Observes now headcount (Catalog.getPurchasablePlan id)
      fun plan facts => facts.store.plan? id = some plan ∧ plan.active = true := by
  refine (Observes.andThen (fun plan result _ => plan.active = true ∧ result = plan) (Catalog.getPlan_observes id)
    fun plan => ?_).mono ?_
  · split
    · rename_i offered
      exact (Observes.pure plan).mono fun _ _ same => ⟨offered, same⟩
    · exact (Observes.failWith _).mono fun _ _ never => never.elim
  · rintro result facts ⟨plan, found, offered, rfl⟩
    exact ⟨found, offered⟩

theorem Ledger.subscriptionOf_observes (company : Uuid) :
    Observes now headcount (Ledger.subscriptionOf company)
      fun current facts => current = facts.store.subscriptionOf? company ∨ current = none :=
  (Observes.readCall _ _ _ _ _ _).mono fun _ _ given => by
    rcases given with same | kept | kept | kept
    · exact .inl same
    all_goals simp_all

theorem Ledger.requireSubscription_observes (company : Uuid) :
    Observes now headcount (Ledger.requireSubscription company)
      fun subscription facts => facts.store.subscriptionOf? company = some subscription :=
  Observes.lookup (fun _ => rfl) ⟨_, rfl⟩

theorem Ledger.requireSubscriptionId_observes (id : Uuid) :
    Observes now headcount (Ledger.requireSubscriptionId id)
      fun subscription facts => facts.store.subscription? id = some subscription :=
  Observes.lookup (fun _ => rfl) ⟨_, rfl⟩

theorem Ledger.loadInvoice_observes (id : Uuid) :
    Observes now headcount (Ledger.loadInvoice id) fun invoice facts => facts.store.invoice? id = some invoice :=
  Observes.lookup (fun _ => rfl) ⟨_, rfl⟩

theorem Invoicing.require_observes (id : Uuid) :
    Observes now headcount (Invoicing.require id) fun invoice facts => facts.store.invoice? id = some invoice :=
  Observes.lookup (fun _ => rfl) ⟨_, rfl⟩

theorem Ledger.requirePositiveSeats_observes (seats : Int) :
    Observes now headcount (Ledger.requirePositiveSeats seats) fun _ _ => 1 ≤ seats := by
  unfold Ledger.requirePositiveSeats
  split
  · exact (Observes.failWith _).mono fun _ _ never => never.elim
  · rename_i enough
    exact (Observes.pure ()).mono fun _ _ _ => Int.not_lt.mp enough

theorem Ledger.priceOf_observes (plan : Plan) (seats : Int) :
    Observes now headcount (Ledger.priceOf plan seats) fun _ _ => True :=
  (Observes.orOverflow _).mono fun _ _ _ => trivial

theorem Invoicing.refuseSecondPending_observes (company : Uuid) :
    Observes now headcount (Invoicing.refuseSecondPending company) fun _ _ => True := by
  refine (Observes.andThen (fun _ _ _ => True) (Observes.readCall _ _ _ _ _ _) fun pending => ?_).mono
    fun _ _ _ => trivial
  split
  · exact (Observes.failWith _).mono fun _ _ never => never.elim
  · exact (Observes.pure ()).mono fun _ _ _ => trivial

/-! ## Drawing identifiers that no record holds -/

/-- No subscription and no invoice of the store holds an identifier drawn from the next one on,
as with random identifiers. -/
def Facts.DrawsFresh (facts : Facts) : Prop :=
  ∀ serial, facts.serial ≤ serial → (∀ subscription ∈ facts.store.subscriptions, subscription.id ≠ Uuid.ofSerial serial) ∧
    ∀ invoice ∈ facts.store.invoices, invoice.id ≠ Uuid.ofSerial serial

namespace Facts.DrawsFresh

variable {facts : Facts}

theorem draw (fresh : facts.DrawsFresh) : ({ facts with serial := facts.serial + 1 } : Facts).DrawsFresh :=
  fun serial later => fresh serial (Nat.le_of_succ_le later)

/-- Writes that keep the subscriptions and the invoices keep identifiers fresh. -/
theorem of_records {after : Facts} (fresh : facts.DrawsFresh) (serial : facts.serial ≤ after.serial)
    (subscriptions : after.store.subscriptions = facts.store.subscriptions)
    (invoices : after.store.invoices = facts.store.invoices) : after.DrawsFresh := by
  intro drawn later
  rw [subscriptions, invoices]
  exact fresh drawn (Nat.le_trans serial later)

theorem subscription? (fresh : facts.DrawsFresh) : facts.store.subscription? (Uuid.ofSerial facts.serial) = none := by
  unfold Store.subscription?
  rw [List.find?_eq_none]
  intro subscription member same
  exact (fresh facts.serial (Nat.le_refl _)).1 subscription member (beq_iff_eq.mp same)

theorem invoice? (fresh : facts.DrawsFresh) : facts.store.invoice? (Uuid.ofSerial facts.serial) = none := by
  unfold Store.invoice?
  rw [List.find?_eq_none]
  intro invoice member same
  exact (fresh facts.serial (Nat.le_refl _)).2 invoice member (beq_iff_eq.mp same)

end Facts.DrawsFresh

/-! ## Writes between the reads -/

/-- Saving a subscription makes one versioned write, and nothing after it changes the facts. -/
theorem Ledger.save_wrote (current next : Subscription) (facts : Facts) :
    Runs now headcount (· = facts) (Ledger.save current next)
      (fun _ after => facts.Wrote (.updateSubscription next current.version) after)
      (facts.Wrote (.updateSubscription next current.version)) := by
  unfold Ledger.save
  refine Runs.bind (Runs.updateSubscription facts next current.version) fun written => ?_
  extract_lets finish
  have finishing : ∀ previous : Unit, Observes now headcount (finish previous) fun _ _ => True := by
    intro _
    dsimp only [finish]
    exact (Observes.andThen _ (Observes.orOverflow _) fun _ => Observes.pure _).mono fun _ _ _ => trivial
  cases written with
  | false =>
    rw [if_pos (show (!false) = true from rfl)]
    exact (Observes.failWith_bind _ _ : Observes now headcount _ fun _ _ => True).keeps
  | true =>
    rw [if_neg (show ¬(!true) = true by decide)]
    exact (finishing ()).keeps

/-- Recording an event draws an identifier and appends the event, or drops it; it keeps every
property of the facts that drawing and appending an event keep. -/
theorem EventLog.record_keeps {keeps : Facts → Prop}
    (draws : ∀ facts, keeps facts → keeps { facts with serial := facts.serial + 1 })
    (appends : ∀ facts event, keeps facts → keeps { facts with store := (Store.Write.appendEvent event).apply facts.store })
    (company : Uuid) (kind : EventKind) (actor : Actor) (subscription invoice : Option Uuid) (data : Json)
    (at_ : Moment) :
    Runs now headcount keeps (EventLog.record company kind actor subscription invoice data at_) (fun _ => keeps) keeps := by
  refine Runs.of_facts fun facts holds => ?_
  unfold EventLog.record
  refine Runs.bind ((Runs.freshId facts).mono (fun _ same => same) (fun _ _ drawn => drawn)
    fun _ same => by rw [same]; exact draws facts holds) fun id => Runs.of_facts fun drawn ⟨_, shape⟩ => ?_
  have drawnKeeps : keeps drawn := by rw [shape]; exact draws facts holds
  have written : ∀ event after, drawn.Wrote (.appendEvent event) after → keeps after := by
    rintro event after (same | same) <;> rw [same]
    · exact drawnKeeps
    · exact appends drawn event drawnKeeps
  exact Runs.catchFailure ((Runs.appendEvent drawn _).mono (fun _ same => same)
    (fun _ after wrote => written _ after wrote) (written _)) (fun _ => (Observes.emit _ _ _ _).keeps) fun _ holds => holds

end SeatBilling
