import SeatBilling.Proofs.Ledger.WellFormed

/-!
# The ledger stays well formed, however operations interleave

Operations of the core run concurrently: each reads the store, checks what it read, and makes
its store calls, each call atomic under the store's lock, while the calls of other operations
come in between. `Store.Interleaved` is every such run: each call is one the core makes
(`CoreWrite`) from what its operation read of the store at some earlier point of the run, with
its own clock reading and headcount. An operation that fails part-way has made fewer calls.

A call made from an earlier read acts where it lands as a call made from a read there, or not
at all (`CoreWrite.later`): the catalog never changes; a revision or a settlement goes through
only while the store holds the version it read (`Store.updated_of_read`), hence the very record;
a settled invoice still bills what it billed; and a new invoice needs no read at all. So the
ledger's representation invariant (`Store.WellFormed`) holds after every interleaving from a
store holding only a catalog, as it does after every trigger run one after another, and the
invariant checks the core runs find nothing there.
-/

namespace SeatBilling

open SeatBilling.Time

namespace Store

variable {store : Store}

theorem plans_replay (writes : List Write) : (store.replay writes).plans = store.plans := by
  induction writes generalizing store with
  | nil => rfl
  | cons write writes inductionHypothesis => rw [replay_cons, inductionHypothesis, plans_apply]

theorem plan?_replay (writes : List Write) (id : String) : (store.replay writes).plan? id = store.plan? id := by
  unfold plan?
  rw [plans_replay]

theorem Keyed.replay (keyed : store.Keyed) (writes : List Write) : (store.replay writes).Keyed := by
  induction writes generalizing store with
  | nil => exact keyed
  | cons write writes inductionHypothesis => exact inductionHypothesis (keyed.apply write)

end Store

/-- A revision reads the store for plans alone, so it is one on every store with the same
catalog. -/
theorem Revises.of_plans {settings : Config} {now : Moment} {headcount : List (Uuid × Int)} {store other : Store}
    {current next : Subscription} {revision : Revision} (samePlans : ∀ id, other.plan? id = store.plan? id)
    (revises : Revises settings now headcount store current revision next) :
    Revises settings now headcount other current revision next := by
  cases revises with
  | downgrade target currentPlan active found offered different currentFound notHigher =>
    exact .downgrade target currentPlan active (by rw [samePlans]; exact found) offered different
      (by rw [samePlans]; exact currentFound) notHigher
  | raiseSeats seats active positive more => exact .raiseSeats seats active positive more
  | lowerSeats seats active positive fewer => exact .lowerSeats seats active positive fewer
  | keepSeats active waiting => exact .keepSeats active waiting
  | cancel cancellable => exact .cancel cancellable
  | withdraw waiting => exact .withdraw waiting
  | commit targetPlan waiting inactive live due found fits =>
    exact .commit targetPlan waiting inactive live due (by rw [samePlans]; exact found) fits
  | commitRolling targetPlan periodEnd waiting active due found fits rolled =>
    exact .commitRolling targetPlan periodEnd waiting active due (by rw [samePlans]; exact found) fits rolled

/-- A run of store calls from `start` in which each call is one the core makes, none an invoice
asked for directly, from what its operation read of the store at an earlier point of the run,
with any clock reading and headcount; new records get fresh identifiers. After `count` calls the
store is `start.replay (writes.take count)`. -/
structure Store.Interleaved (settings : Config) (start : Store) (writes : List Store.Write) : Prop where
  fresh : Store.FreshRun start writes
  calls : ∀ late write, writes[late]? = some write → ∃ early ≤ late, ∃ now headcount kind,
    kind ≠ .billDirect ∧ CoreWrite settings now headcount (start.replay (writes.take early)) kind write

section Interleavings

variable {settings : Config} {start : Store} {writes : List Store.Write}

/-- An invoice stored at one point of a run is stored at every later point, billing what it
billed. -/
theorem Store.invoice?_later (fresh : Store.FreshRun start writes) {early late : Nat} (ordered : early ≤ late)
    {id : Uuid} {invoice : Invoice} (found : (start.replay (writes.take early)).invoice? id = some invoice) :
    ∃ stored, (start.replay (writes.take late)).invoice? id = some stored ∧ stored.terms = invoice.terms := by
  obtain ⟨reached, freshRest⟩ := fresh.segment ordered
  obtain ⟨stored, foundLate, step⟩ := Store.invoiceStep_replay freshRest found
  rw [← reached] at foundLate
  exact ⟨stored, foundLate, step.terms⟩

/-- A settlement whose invoice was read before the company's subscription is a call made from
the later read alone: the invoice is still stored there, and its payment buys the same. -/
theorem CoreWrite.settle_of_invoice_read_earlier (fresh : Store.FreshRun start writes) {first second : Nat}
    (ordered : first ≤ second) {now : Moment} {headcount : List (Uuid × Int)} {id newId : Uuid} {invoice : Invoice}
    {current : Option Subscription} {payment : Payment} {write : SubscriptionWrite}
    (found : (start.replay (writes.take first)).invoice? id = some invoice)
    (read : current = (start.replay (writes.take second)).subscriptionOf? invoice.company ∨ current = none)
    (bought : paidEffect newId invoice current payment.paidAt now settings.period = some write) :
    CoreWrite settings now headcount (start.replay (writes.take second)) .settle (.settleInvoice id payment write) := by
  obtain ⟨stored, foundSecond, sameTerms⟩ := Store.invoice?_later fresh ordered found
  have sameCompany : stored.company = invoice.company := congrArg Prod.fst sameTerms
  refine .settle id stored current newId payment write foundSecond (by rw [sameCompany]; exact read) ?_
  rw [Webhook.paidEffect_eq_of_terms sameTerms]
  exact bought

/-- A call the core makes from what it read at an earlier point of a run acts, where it lands,
as a call made from a read there, or leaves the store as it is. -/
theorem CoreWrite.later {early late : Nat} (fresh : Store.FreshRun start writes) (ordered : early ≤ late)
    (keyed : (start.replay (writes.take early)).Keyed)
    (oneEach : ((start.replay (writes.take late)).subscriptions.map Subscription.company).Nodup)
    {now : Moment} {headcount : List (Uuid × Int)} {kind : WriteKind} {write : Store.Write}
    (made : CoreWrite settings now headcount (start.replay (writes.take early)) kind write) :
    write.apply (start.replay (writes.take late)) = start.replay (writes.take late) ∨
      ∃ landed, CoreWrite settings now headcount (start.replay (writes.take late)) landed write := by
  have samePlans : ∀ id, (start.replay (writes.take late)).plan? id = (start.replay (writes.take early)).plan? id :=
    fun id => by rw [Store.plan?_replay, Store.plan?_replay]
  cases made with
  | trial company plan id trialEnd found offered ends =>
    exact .inr ⟨.trial, .trial company plan id trialEnd (by rw [samePlans]; exact found) offered ends⟩
  | revise current next revision read revises =>
    rcases Store.apply_updateSubscription (start.replay (writes.take late)) next current.version with
      unchanged | ⟨checked, -⟩
    · exact .inl unchanged
    · -- the update went through, so the store still held the record read
      have held := Store.updated_of_read fresh ordered (keyed.subscription?_of_mem read) revises.id_eq checked
      exact .inr ⟨_, .revise current next revision (List.mem_of_find?_eq_some held) (revises.of_plans samePlans)⟩
  | bill request id expiresAt _ ttl => exact .inr ⟨.billDirect, .billDirect request id expiresAt ttl⟩
  | billDirect request id expiresAt ttl => exact .inr ⟨.billDirect, .billDirect request id expiresAt ttl⟩
  | setAside id => exact .inr ⟨.setAside, .setAside id⟩
  | link id providerId url expiresAt => exact .inr ⟨.link, .link id providerId url expiresAt⟩
  | close id target closing => exact .inr ⟨.close, .close id target closing⟩
  | settle id invoice current newId payment effect found read bought =>
    cases effect with
    | insert created =>
      obtain ⟨rfl, -⟩ := paidEffect_insert bought
      exact .inr ⟨.settle, CoreWrite.settle_of_invoice_read_earlier fresh ordered found (.inr rfl) bought⟩
    | update next version =>
      cases current with
      | none =>
        obtain ⟨_, wrong, -⟩ := Webhook.paidEffect_none bought
        cases wrong
      | some current =>
        obtain ⟨rfl, revised, revision, rfl⟩ := paidEffect_update bought
        rcases Store.apply_settleInvoice (start.replay (writes.take late)) id payment
            (.update { revised with updatedAt := now, version := current.version + 1 } current.version) with
          unchanged | ⟨_, _, -, -, ⟨checked, -⟩, -⟩
        · exact .inl unchanged
        have readEarly := Store.subscriptionOf?_of_read read
        -- the settlement went through, so the store still held the subscription read, which is
        -- its company's one subscription
        have held := Store.updated_of_read fresh ordered
          (keyed.subscription?_of_mem (List.mem_of_find?_eq_some readEarly)) revision.id_eq checked
        have companyRead : current.company = invoice.company := by simpa using List.find?_some readEarly
        have readLate : (start.replay (writes.take late)).subscriptionOf? invoice.company = some current := by
          rw [← companyRead]
          exact Store.subscriptionOf?_of_mem oneEach (List.mem_of_find?_eq_some held)
        exact .inr ⟨.settle, CoreWrite.settle_of_invoice_read_earlier fresh ordered found (.inl readLate.symm) bought⟩
  | expire statuses cutoff target move => exact .inr ⟨.expire, .expire statuses cutoff target move⟩
  | record event => exact .inr ⟨.record, .record event⟩

/-- The ledger stays well formed after every prefix of an interleaving from a well-formed store,
for periods and trials that are not negative. -/
theorem Store.Interleaved.wellFormed_take (interleaved : Store.Interleaved settings start writes)
    (wellFormed : start.WellFormed) (period : 0 ≤ settings.period.seconds) (trial : 0 ≤ settings.trial.seconds)
    (count : Nat) : (start.replay (writes.take count)).WellFormed := by
  -- on the calls made so far: each call is checked where it lands
  induction count with
  | zero => simpa using wellFormed
  | succ count inductionHypothesis =>
    cases call : writes[count]? with
    | none =>
      have ended : writes.length ≤ count := List.getElem?_eq_none_iff.mp call
      rw [List.take_of_length_le (Nat.le_succ_of_le ended)]
      rw [List.take_of_length_le ended] at inductionHypothesis
      exact inductionHypothesis
    | some write =>
      obtain ⟨stepped, freshWrite⟩ := interleaved.fresh.step call
      obtain ⟨early, ordered, now, headcount, kind, direct, made⟩ := interleaved.calls count write call
      have catalog : ∀ plan ∈ (start.replay (writes.take early)).plans, 1 ≤ plan.maxSeatsIncluded := by
        rw [Store.plans_replay]
        exact wellFormed.catalog
      have bills := made.billsSeats catalog direct
      rw [stepped]
      rcases made.later interleaved.fresh ordered (wellFormed.keyed.replay _) inductionHypothesis.oneEach with
        unchanged | ⟨_, landed⟩
      · rw [unchanged]
        exact inductionHypothesis
      · exact inductionHypothesis.apply period trial landed bills freshWrite

theorem Store.Interleaved.wellFormed (interleaved : Store.Interleaved settings start writes)
    (wellFormed : start.WellFormed) (period : 0 ≤ settings.period.seconds) (trial : 0 ≤ settings.trial.seconds) :
    (start.replay writes).WellFormed := by
  have whole := interleaved.wellFormed_take wellFormed period trial writes.length
  rwa [List.take_of_length_le (Nat.le_refl _)] at whole

end Interleavings

/-! ## Triggers one after another -/

/-- The calls of one trigger, each made on the store it meets, are an interleaving in which every
call reads where it lands. -/
theorem Store.Made.interleaved {settings : Config} {now : Moment} {headcount : List (Uuid × Int)}
    {uses : List WriteKind} (direct : .billDirect ∉ uses) :
    ∀ {store : Store} {writes : List Store.Write}, Store.Made (CoreWrite.Of settings now headcount uses) store writes →
      Store.Interleaved settings store writes := by
  intro store writes
  induction writes generalizing store with
  | nil => exact fun _ => ⟨trivial, fun _ _ beyond => by simp at beyond⟩
  | cons write writes inductionHypothesis =>
    rintro ⟨allowed, freshWrite, rest⟩
    have later := inductionHypothesis rest
    refine ⟨⟨freshWrite, later.fresh⟩, fun late called found => ?_⟩
    cases late with
    | zero =>
      -- the first call reads the store the run starts from
      obtain rfl : write = called := by simpa using found
      obtain ⟨kind, used, made⟩ := allowed
      exact ⟨0, Nat.le_refl 0, now, headcount, kind, fun billed => direct (by rw [← billed]; exact used), made⟩
    | succ late =>
      obtain ⟨early, ordered, readNow, readHeadcount, kind, notDirect, made⟩ :=
        later.calls late called (by simpa using found)
      exact ⟨early + 1, Nat.succ_le_succ ordered, readNow, readHeadcount, kind, notDirect, made⟩

/-- Whatever it does and whatever fault it meets, a trigger that asks for no invoice directly
keeps the ledger well formed, run on the records in memory with fresh identifiers, for periods
and trials that are not negative. -/
theorem Trigger.keeps_ledger_well_formed (trigger : Trigger) (world : World) (inMemory : world.backend = .memory)
    (fresh : world.facts.DrawsFresh) (direct : .billDirect ∉ trigger.uses)
    (period : 0 ≤ world.config.period.seconds) (trial : 0 ≤ world.config.trial.seconds)
    (wellFormed : world.store.WellFormed) : (trigger.perform.run.run world).2.store.WellFormed := by
  obtain ⟨writes, made, reachedStore⟩ := (trigger.reaches world inMemory fresh).made
  show (trigger.perform.run.run world).2.facts.store.WellFormed
  rw [reachedStore]
  exact (made.interleaved direct).wellFormed wellFormed period trial

/-- The stores the core reaches from `start` by triggers run one after another, none asking for
an invoice directly, each on the records in memory with fresh identifiers, whatever the clock
reads and whatever the headcount between them. -/
inductive Store.ReachedBy (settings : Config) (start : Store) : Store → Prop
  | refl : Store.ReachedBy settings start start
  | step (trigger : Trigger) (world : World) (reached : Store.ReachedBy settings start world.store)
      (configured : world.config = settings) (inMemory : world.backend = .memory) (fresh : world.facts.DrawsFresh)
      (direct : .billDirect ∉ trigger.uses) :
      Store.ReachedBy settings start (trigger.perform.run.run world).2.store

theorem Store.ReachedBy.wellFormed {settings : Config} {start store : Store} (reached : start.ReachedBy settings store)
    (wellFormed : start.WellFormed) (period : 0 ≤ settings.period.seconds) (trial : 0 ≤ settings.trial.seconds) :
    store.WellFormed := by
  induction reached with
  | refl => exact wellFormed
  | step trigger world _ configured inMemory fresh direct inductionHypothesis =>
    subst configured
    exact trigger.keeps_ledger_well_formed world inMemory fresh direct period trial inductionHypothesis

/-- The ledger's representation invariant holds in every store the core reaches from a store
holding only a catalog whose plans include a seat at least, for periods and trials that are not
negative: a company has one subscription at most; a waiting plan is another plan of the catalog,
of no higher tier than the plan in force; a waiting seat cap is at least one and below the cap in
force; every seat cap is at least one and every period starts no later than it ends; nothing
waits in a trial or once cancelled; a paid invoice records when it was paid and the subscription
it bought; no two invoices carry one provider id. So the checks of waiting plans, paid invoices
and waiting seat caps find nothing there. It holds after triggers run one after another,
whatever each does and whatever fault it meets, and along every interleaving of the calls of
concurrent operations; invoices asked for directly are left out. -/
theorem ledger_stays_well_formed (settings : Config) (period : 0 ≤ settings.period.seconds)
    (trial : 0 ≤ settings.trial.seconds) (start : Store) (noSubscriptions : start.subscriptions = [])
    (noInvoices : start.invoices = []) (catalog : ∀ plan ∈ start.plans, 1 ≤ plan.maxSeatsIncluded) :
    (∀ store, start.ReachedBy settings store → store.WellFormed ∧ store.PassesChecks) ∧
      ∀ writes, Store.Interleaved settings start writes →
        (start.replay writes).WellFormed ∧ (start.replay writes).PassesChecks := by
  have initial : start.WellFormed := .of_catalog noSubscriptions noInvoices catalog
  refine ⟨fun _ reached => ?_, fun _ interleaved => ?_⟩
  · have reachedWellFormed := reached.wellFormed initial period trial
    exact ⟨reachedWellFormed, reachedWellFormed.passesChecks⟩
  · have endWellFormed := interleaved.wellFormed initial period trial
    exact ⟨endWellFormed, endWellFormed.passesChecks⟩

/-- The quiet world's store holds the basic plan alone, of five seats. -/
theorem quiet_ledger_stays_well_formed :
    0 ≤ Ledger.quietStart.config.period.seconds ∧ 0 ≤ Ledger.quietStart.config.trial.seconds ∧
      Ledger.quietStart.store.subscriptions = [] ∧ Ledger.quietStart.store.invoices = [] ∧
      (∀ plan ∈ Ledger.quietStart.store.plans, 1 ≤ plan.maxSeatsIncluded) ∧
      ((∀ store, Ledger.quietStart.store.ReachedBy Ledger.quietStart.config store →
          store.WellFormed ∧ store.PassesChecks) ∧
        ∀ writes, Store.Interleaved Ledger.quietStart.config Ledger.quietStart.store writes →
          (Ledger.quietStart.store.replay writes).WellFormed ∧ (Ledger.quietStart.store.replay writes).PassesChecks) :=
  ⟨by decide, by decide, rfl, rfl, by decide,
    ledger_stays_well_formed _ (by decide) (by decide) _ rfl rfl (by decide)⟩

end SeatBilling
