import SeatBilling.Proofs.Ledger.WellFormed
import SeatBilling.Proofs.Sweep.Fates

/-!
# The three steps of a sweep, one record at a time

Each step of a sweep walks its records one by one and reports a record it could not handle, or
the whole step when it could not list its records or, for the expiry pass, apply it. What a step
leaves is said per identifier: a record the step did not report ends at its fate; one it
reported ends as it was or at its fate; and a step that could not list its records changed
none. Without faults no step reports its listing, the stale step reports no invoice, and a
change that fails to commit fails as its records make it, at its fate.
-/

namespace SeatBilling

open SeatBilling.Time

/-- Looking invoices up after one is replaced finds the replacement under its identifier and
what was there before under the others. -/
theorem Facts.Holding.invoice?_replacing {before after : Facts} {invoice result : Invoice}
    (holding : after.Holding before before.store.subscriptions
      (before.store.invoices.map (Store.replacing invoice.id result)))
    (found : before.store.invoice? invoice.id = some invoice) (sameId : result.id = invoice.id) (id : Uuid) :
    after.store.invoice? id = if id = invoice.id then some result else before.store.invoice? id := by
  rw [holding.invoice?, Store.invoice?_map (Store.replacing_id sameId)]
  by_cases same : id = invoice.id
  · subst same
    rw [found, if_pos rfl]
    simp [Store.replacing]
  · rw [if_neg same]
    cases stored : before.store.invoice? id with
    | none => rfl
    | some kept =>
      have keptId : kept.id = id := Store.invoice?_id stored
      rw [Option.map_some, Store.replacing_of_ne (by rw [keptId]; exact same)]

/-- Replacing an invoice by one with its identifier keeps the identifiers of the invoices. -/
theorem Facts.Holding.invoice_ids_replacing {before after : Facts} {subscriptions : List Subscription}
    {id : Uuid} {result : Invoice} (holding : after.Holding before subscriptions
      (before.store.invoices.map (Store.replacing id result))) (sameId : result.id = id) :
    after.store.invoices.map (·.id) = before.store.invoices.map (·.id) := by
  rw [holding.invoices, List.map_map]
  exact List.map_congr_left fun old _ => Store.replacing_id sameId old

namespace Sweep

/-- What a report names: the step and the record of each failure, in order. -/
def Report.named (report : Report) : List (Step × Option Uuid) :=
  report.failures.map fun failure => (failure.step, failure.record)

@[simp] theorem Report.named_fail (report : Report) (step : Step) (record : Option Uuid) (error : String) :
    (report.fail step record error).named = report.named ++ [(step, record)] := by
  simp [Report.named, Report.fail]

theorem Report.named_foldl_fail (failed : List (Uuid × String)) (report : Report) :
    (failed.foldl (fun report failed => report.fail .staleInvoices (some failed.1) failed.2) report).named =
      report.named ++ failed.map fun failed => (.staleInvoices, some failed.1) := by
  induction failed generalizing report with
  | nil => simp
  | cons entry failed inductionHypothesis => simp [inductionHypothesis]

variable {α : Type} {exposure : Exposure} {now : Moment} {headcount : List (Uuid × Int)}

/-- A section within a time limit gives the action's value, its failure, or nothing when it ran
out of time, each with what the action ends with; it halts only otherwise. -/
theorem withinLimit_behaves {pre : Facts → Prop} {gives : α → Facts → Prop} {halts : Halt → Facts → Prop}
    (limit : Nat) {action : BillingM α} (behaves : Behaves exposure now headcount pre action gives halts) :
    Behaves exposure now headcount pre (withinLimit limit action)
      (fun outcome facts => match outcome with
        | some (.ok value) => gives value facts
        | some (.error failure) => halts (.failed failure) facts
        | none => halts .elapsed facts)
      (fun halt facts => halt ≠ .elapsed ∧ (∀ failure, halt ≠ .failed failure) ∧ halts halt facts) := by
  unfold withinLimit
  refine Behaves.catchHalt ((Behaves.map some (Behaves.timedSection limit (Behaves.attempt behaves))).mono
    (fun _ holds => holds) (fun outcome facts ⟨result, same, given⟩ => ?_) fun _ _ halted => halted) fun halt => ?_
  · subst same
    cases result <;> exact given
  · split
    · exact (Behaves.pure _).mono (fun _ holds => holds) (fun _ _ ⟨same, _, halted⟩ => by rw [same]; exact halted)
        fun _ _ halted => halted
    · rename_i notElapsed
      exact (Behaves.throw _).mono (fun _ holds => holds) (fun _ _ given => given)
        fun _ _ ⟨same, notFailure, halted⟩ => by subst same; exact ⟨notElapsed, notFailure, halted⟩

/-! ## Stale invoices -/

/-- What the stale pass has done from `start`, with cutoff `cutoff`, once it has visited the
invoices `done` and gathered `sweep`: it kept the configuration, the plans and the
subscriptions; every invoice it visited and did not report is at its fate, every invoice it has
not visited is as it was, and any invoice is one or the other; it reported only invoices it
visited, and none without faults. -/
structure StaleProgress (exposure : Exposure) (start : Facts) (cutoff : Moment) (done : List Invoice)
    (sweep : Invoicing.StaleSweep) (after : Facts) : Prop where
  config : after.config = start.config
  plans : after.store.plans = start.store.plans
  subscriptions : after.store.subscriptions = start.store.subscriptions
  identifiers : after.store.invoices.map (·.id) = start.store.invoices.map (·.id)
  failed : (sweep.failed.map (·.1)).Sublist (done.map (·.id))
  calm : exposure = .calm → sweep.failed = []
  untouched : ∀ id, id ∉ done.map (·.id) → after.store.invoice? id = start.store.invoice? id
  expired : ∀ id ∈ done.map (·.id), id ∉ sweep.failed.map (·.1) →
    after.store.invoice? id = (start.store.invoice? id).map (staleExpired cutoff)
  either : ∀ id, after.store.invoice? id = start.store.invoice? id ∨
    after.store.invoice? id = (start.store.invoice? id).map (staleExpired cutoff)

/-- An item met along a walk over records with distinct keys was not met before. -/
theorem fresh_of_walk {β : Type} {key : β → Uuid} {items done left : List β} {item : β}
    (distinct : (items.map key).Nodup) (walk : done ++ item :: left = items) : key item ∉ done.map key := by
  rw [← walk, List.map_append, List.map_cons, List.nodup_append] at distinct
  exact fun member => distinct.2.2 _ member _ (List.mem_cons_self ..) rfl

/-- The invoices a stale pass lists are stored, pending and older than its cutoff, and have
distinct identifiers. -/
theorem listStalePendingInvoices_mem {store : Store} {cutoff : Moment} {invoice : Invoice}
    (listed : invoice ∈ store.listStalePendingInvoices cutoff) :
    invoice ∈ store.invoices ∧ invoice.isPending = true ∧ invoice.createdAt < cutoff := by
  simp only [Store.listStalePendingInvoices, List.mem_filter, Bool.and_eq_true, decide_eq_true_eq] at listed
  exact ⟨listed.1, listed.2⟩

theorem listStalePendingInvoices_nodup {store : Store} (keyed : store.Keyed) (cutoff : Moment) :
    ((store.listStalePendingInvoices cutoff).map (·.id)).Nodup :=
  keyed.invoices.sublist (List.filter_sublist.map _)

/-- An invoice the stale pass does not list stays as it is. -/
theorem staleExpired_of_unlisted {store : Store} {cutoff : Moment} {id : Uuid}
    (unlisted : id ∉ (store.listStalePendingInvoices cutoff).map (·.id)) :
    (store.invoice? id).map (staleExpired cutoff) = store.invoice? id := by
  cases stored : store.invoice? id with
  | none => rfl
  | some invoice =>
    rw [Option.map_some, staleExpired_of_current]
    intro stale
    have sameId : invoice.id = id := Store.invoice?_id stored
    refine unlisted (List.mem_map.mpr ⟨invoice, ?_, sameId⟩)
    simp only [Store.listStalePendingInvoices, List.mem_filter, Bool.and_eq_true, decide_eq_true_eq]
    exact ⟨List.mem_of_find?_eq_some stored, stale⟩

namespace StaleProgress

variable {start middle after : Facts} {cutoff : Moment} {done : List Invoice} {sweep : Invoicing.StaleSweep}
  {invoice : Invoice}

theorem begin (exposure : Exposure) (start : Facts) (cutoff : Moment) :
    StaleProgress exposure start cutoff [] ⟨[], []⟩ start :=
  ⟨rfl, rfl, rfl, rfl, .slnil, fun _ => rfl, fun _ _ => rfl, fun _ member => absurd member List.not_mem_nil,
    fun _ => .inl rfl⟩

/-- Expiring the next stale invoice takes it to its fate. -/
theorem expire (progress : StaleProgress exposure start cutoff done sweep middle)
    (found : start.store.invoice? invoice.id = some invoice)
    (stale : invoice.isPending = true ∧ invoice.createdAt < cutoff) (fresh : invoice.id ∉ done.map (·.id))
    (moved : after.Holding middle middle.store.subscriptions
      (middle.store.invoices.map (Store.replacing invoice.id { invoice with status := .expired })))
    (expiredIds : List Uuid) :
    StaleProgress exposure start cutoff (done ++ [invoice]) ⟨expiredIds, sweep.failed⟩ after := by
  have here : middle.store.invoice? invoice.id = some invoice := (progress.untouched _ fresh).trans found
  have lookup := moved.invoice?_replacing here rfl
  have fate : (start.store.invoice? invoice.id).map (staleExpired cutoff) = some { invoice with status := .expired } := by
    rw [found, Option.map_some, staleExpired_of_stale stale]
  refine ⟨moved.config.trans progress.config, moved.plans.trans progress.plans,
    moved.subscriptions.trans progress.subscriptions, (moved.invoice_ids_replacing rfl).trans progress.identifiers,
    progress.failed.trans ?_, progress.calm, fun id outside => ?_, fun id inside reported => ?_, fun id => ?_⟩
  · rw [List.map_append]
    exact List.sublist_append_left _ _
  · simp only [List.map_append, List.map_cons, List.map_nil, List.mem_append, List.mem_singleton, not_or] at outside
    rw [lookup, if_neg outside.2]
    exact progress.untouched id outside.1
  · rw [lookup]
    split
    · rename_i same
      rw [same, fate]
    · rename_i other
      simp only [List.map_append, List.map_cons, List.map_nil, List.mem_append, List.mem_singleton] at inside
      exact progress.expired id (inside.resolve_right other) reported
  · rw [lookup]
    split
    · rename_i same
      rw [same, fate]
      exact .inr rfl
    · exact progress.either id

/-- A stale invoice reported as failed or timed out is as it was or at its fate. -/
theorem fail (progress : StaleProgress exposure start cutoff done sweep middle)
    (found : start.store.invoice? invoice.id = some invoice)
    (stale : invoice.isPending = true ∧ invoice.createdAt < cutoff) (fresh : invoice.id ∉ done.map (·.id))
    (honest : exposure = .honest)
    (left : after.Holding middle middle.store.subscriptions middle.store.invoices ∨
      after.Holding middle middle.store.subscriptions
        (middle.store.invoices.map (Store.replacing invoice.id { invoice with status := .expired })))
    (message : String) :
    StaleProgress exposure start cutoff (done ++ [invoice]) ⟨sweep.expired, sweep.failed ++ [(invoice.id, message)]⟩
      after := by
  have here : middle.store.invoice? invoice.id = some invoice := (progress.untouched _ fresh).trans found
  have fate : (start.store.invoice? invoice.id).map (staleExpired cutoff) = some { invoice with status := .expired } := by
    rw [found, Option.map_some, staleExpired_of_stale stale]
  -- under the invoice's identifier it is as it was or expired; elsewhere as before
  have lookup : ∀ id, (id = invoice.id → after.store.invoice? id = start.store.invoice? id ∨
      after.store.invoice? id = (start.store.invoice? id).map (staleExpired cutoff)) ∧
      (id ≠ invoice.id → after.store.invoice? id = middle.store.invoice? id) := by
    intro id
    rcases left with same | moved
    · have kept : after.store.invoice? id = middle.store.invoice? id := by
        rw [same.invoice?]
      refine ⟨fun named => .inl ?_, fun _ => kept⟩
      rw [kept, named, here, found]
    · have looked := moved.invoice?_replacing here rfl id
      refine ⟨fun named => .inr ?_, fun other => by rw [looked, if_neg other]⟩
      rw [looked, if_pos named, named, fate]
  -- either way the step kept everything but the invoice's status
  have frame : after.config = middle.config ∧ after.store.plans = middle.store.plans ∧
      after.store.subscriptions = middle.store.subscriptions ∧
      after.store.invoices.map (·.id) = middle.store.invoices.map (·.id) := by
    rcases left with same | moved
    · exact ⟨same.config, same.plans, same.subscriptions, by rw [same.invoices]⟩
    · exact ⟨moved.config, moved.plans, moved.subscriptions, moved.invoice_ids_replacing rfl⟩
  obtain ⟨config, plans, subscriptions, identifiers⟩ := frame
  refine ⟨config.trans progress.config, plans.trans progress.plans, subscriptions.trans progress.subscriptions,
    identifiers.trans progress.identifiers, ?_, fun calm => absurd (calm.symm.trans honest) nofun,
    fun id outside => ?_, fun id inside reported => ?_, fun id => ?_⟩
  · rw [List.map_append, List.map_append]
    exact progress.failed.append (List.Sublist.refl _)
  · simp only [List.map_append, List.map_cons, List.map_nil, List.mem_append, List.mem_singleton, not_or] at outside
    rw [(lookup id).2 outside.2]
    exact progress.untouched id outside.1
  · simp only [List.map_append, List.map_cons, List.map_nil, List.mem_append, List.mem_singleton, not_or] at inside reported
    have other : id ≠ invoice.id := reported.2
    rw [(lookup id).2 other]
    exact progress.expired id (inside.resolve_right other) reported.1
  · by_cases named : id = invoice.id
    · exact (lookup id).1 named
    · rw [(lookup id).2 named]
      exact progress.either id

end StaleProgress

/-- The stale pass lists the invoices stale at its cutoff and visits each; it halts only when it
cannot compute the cutoff or, under an honest fault, list the invoices, with nothing changed. -/
theorem expireStale_behaves (start : Facts) (keyed : start.store.Keyed) :
    Behaves exposure now headcount (· = start) Invoicing.expireStale
      (fun sweep after => ∃ cutoff, now.unshift? start.config.invoiceTtl = some cutoff ∧
        StaleProgress exposure start cutoff (start.store.listStalePendingInvoices cutoff) sweep after)
      (fun halt after => ∀ failure, halt = .failed failure → exposure = .honest ∧ after = start) := by
  unfold Invoicing.expireStale
  refine Behaves.bind Behaves.config fun settings => Behaves.of_facts fun configured ⟨read, same⟩ => ?_
  subst configured read
  refine Behaves.bind Behaves.clock fun at_ => Behaves.of_facts fun clocked ⟨read, same⟩ => ?_
  subst clocked at_
  refine Behaves.bind ((Behaves.orOverflow _).mono (fun _ same => same) (fun _ _ given => given)
    fun _ _ ⟨_, overflowed, _⟩ _ failed => absurd (overflowed.symm.trans failed) nofun)
    fun cutoff => Behaves.of_facts fun cutting ⟨cut, same⟩ => ?_
  subst cutting
  refine Behaves.bind ((Behaves.readCall _ _ _ _ _ _).mono (fun _ same => same) (fun _ _ given => given)
    fun _ _ ⟨honest, same⟩ _ _ => ⟨honest, same⟩) fun stale => Behaves.of_facts fun listing ⟨listed, same⟩ => ?_
  subst listing listed
  extract_lets visit
  -- each visit expires its invoice, or reports it as it was or expired; it never fails
  have visiting : ∀ done invoice left sweep, done ++ invoice :: left = start.store.listStalePendingInvoices cutoff →
      Behaves exposure now headcount (StaleProgress exposure start cutoff done sweep) (visit sweep invoice)
        (fun next => StaleProgress exposure start cutoff (done ++ [invoice]) next)
        (fun halt after => ∀ failure, halt = .failed failure → exposure = .honest ∧ after = start) := by
    intro done invoice left sweep walk
    have listed := listStalePendingInvoices_mem (walk ▸ List.mem_append_right done (List.mem_cons_self ..))
    have found := keyed.invoice?_of_mem listed.1
    have fresh := fresh_of_walk (listStalePendingInvoices_nodup keyed cutoff) walk
    refine Behaves.of_facts fun middle progress => ?_
    have here : middle.store.invoice? invoice.id = some invoice := (progress.untouched _ fresh).trans found
    refine Behaves.bind (?_ : Behaves exposure now headcount (· = middle) _
      (fun outcome after => match outcome with
        | .ok (.ok changed) => changed = true ∧ after.Holding middle middle.store.subscriptions
            (middle.store.invoices.map (Store.replacing invoice.id { invoice with status := .expired }))
        | .ok (.error _) | .error _ => exposure = .honest ∧
            (after.Holding middle middle.store.subscriptions middle.store.invoices ∨
              after.Holding middle middle.store.subscriptions
                (middle.store.invoices.map (Store.replacing invoice.id { invoice with status := .expired })))) _)
      fun outcome => ?_
    · refine Behaves.catchHalt ((Behaves.map Except.ok (Behaves.timedSection _ (Behaves.attempt
        (Invoicing.markExpired_behaves middle here listed.2.1)))).mono (fun _ same => same)
        (fun _ _ ⟨result, same, given⟩ => ?_) fun _ _ halted => halted) fun halt => ?_
      · subst same
        cases result <;> exact given
      · cases halt with
        | elapsed =>
          exact (Behaves.pure _).mono (fun _ held => held) (fun _ _ ⟨same, _, reported⟩ => by rw [same]; exact reported)
            fun _ _ halted => halted
        | failed failure => exact fun _ _ _ ⟨notFailure, _⟩ => absurd rfl (notFailure failure)
        | overflow =>
          exact (Behaves.throw _).mono (fun _ held => held) (fun _ _ given => given)
            fun _ _ ⟨same, _⟩ _ failed => absurd (same.symm.trans failed) nofun
    · -- a failed or timed-out expiry is reported, with the invoice as it was or expired
      have failing : ∀ message, Behaves exposure now headcount
          (fun after => exposure = .honest ∧ (after.Holding middle middle.store.subscriptions middle.store.invoices ∨
            after.Holding middle middle.store.subscriptions
              (middle.store.invoices.map (Store.replacing invoice.id { invoice with status := .expired }))))
          (Pure.pure ⟨sweep.expired, sweep.failed ++ [(invoice.id, message)]⟩)
          (fun next => StaleProgress exposure start cutoff (done ++ [invoice]) next)
          (fun halt after => ∀ failure, halt = .failed failure → exposure = .honest ∧ after = start) :=
        fun message => (Behaves.pure _).mono (fun _ held => held)
          (fun _ _ ⟨same, honest, left⟩ => same ▸ progress.fail found listed.2 fresh honest left message)
          fun _ _ halted => halted
      cases outcome with
      | error => exact Behaves.bind (Behaves.emit _ _ _ _) fun _ => failing _
      | ok result =>
        cases result with
        | error failure => exact Behaves.bind (Behaves.emit _ _ _ _) fun _ => failing _
        | ok changed =>
          cases changed with
          | false => exact fun _ _ _ ⟨wrong, _⟩ => absurd wrong Bool.false_ne_true
          | true =>
            exact (Behaves.pure _).mono (fun _ held => held)
              (fun _ _ ⟨same, _, moved⟩ => same ▸ progress.expire found listed.2 fresh moved _) fun _ _ halted => halted
  refine Behaves.bind ((Behaves.foldlM visit _ visiting _ [] ⟨[], []⟩ (List.nil_append _)).mono
    (fun _ same => same ▸ StaleProgress.begin exposure start cutoff) (fun _ _ given => given)
    fun _ _ halted => halted) fun sweep => ?_
  -- the pass ends with what it gathered, whether or not it logs a count
  dsimp only
  split
  on_goal 1 => refine Behaves.bind (Behaves.emit _ _ _ _) fun _ => ?_
  all_goals
    exact (Behaves.pure _).mono (fun _ held => held) (fun _ _ ⟨same, held⟩ => ⟨cutoff, cut, same ▸ held⟩)
      fun _ _ halted => halted

/-- What the stale step leaves from `start`, having reported `records` (an invoice's identifier,
or none for the listing): the configuration, the plans and the subscriptions as they were; no
record reported twice, and none without faults; nothing changed when it could not list the
invoices; and otherwise every invoice at its fate unless reported, and as it was or at its fate
when reported. -/
structure StaleStep (exposure : Exposure) (now : Moment) (start : Facts) (records : List (Option Uuid))
    (after : Facts) : Prop where
  config : after.config = start.config
  plans : after.store.plans = start.store.plans
  subscriptions : after.store.subscriptions = start.store.subscriptions
  identifiers : after.store.invoices.map (·.id) = start.store.invoices.map (·.id)
  distinct : records.Nodup
  calm : exposure = .calm → records = []
  unlisted : none ∈ records → ∀ id, after.store.invoice? id = start.store.invoice? id
  listed : none ∉ records → ∃ cutoff, now.unshift? start.config.invoiceTtl = some cutoff ∧ ∀ id,
    (some id ∉ records → after.store.invoice? id = (start.store.invoice? id).map (staleExpired cutoff)) ∧
    (after.store.invoice? id = start.store.invoice? id ∨
      after.store.invoice? id = (start.store.invoice? id).map (staleExpired cutoff))

/-- A stale pass that visited every listed invoice leaves its step with the invoices it
reported. -/
theorem StaleProgress.stale_step {start after : Facts} {cutoff : Moment} {sweep : Invoicing.StaleSweep}
    (keyed : start.store.Keyed) (cut : now.unshift? start.config.invoiceTtl = some cutoff)
    (progress : StaleProgress exposure start cutoff (start.store.listStalePendingInvoices cutoff) sweep after) :
    StaleStep exposure now start (sweep.failed.map fun failed => some failed.1) after := by
  have reported : ∀ id, some id ∈ sweep.failed.map (fun failed => some failed.1) ↔ id ∈ sweep.failed.map (·.1) := by
    intro id
    simp only [List.mem_map, Option.some.injEq]
  refine ⟨progress.config, progress.plans, progress.subscriptions, progress.identifiers, ?_,
    fun calm => by rw [progress.calm calm]; rfl,
    fun named => ?_, fun _ => ⟨cutoff, cut, fun id => ⟨fun notReported => ?_, progress.either id⟩⟩⟩
  · have distinct := (listStalePendingInvoices_nodup keyed cutoff).sublist progress.failed
    have named := distinct.map fun _ _ same => Option.some.inj same
    rwa [List.map_map] at named
  · simp at named
  · rw [reported] at notReported
    by_cases visited : id ∈ (start.store.listStalePendingInvoices cutoff).map (·.id)
    · exact progress.expired id visited notReported
    · rw [progress.untouched id visited, staleExpired_of_unlisted visited]

/-- A stale step that could not list its invoices changed nothing. -/
theorem StaleStep.of_unlisted (start : Facts) (honest : exposure = .honest) :
    StaleStep exposure now start [none] start :=
  ⟨rfl, rfl, rfl, rfl, List.nodup_singleton _, fun calm => absurd (calm.symm.trans honest) nofun, fun _ _ => rfl,
    fun notListed => absurd (List.mem_singleton_self _) notListed⟩

/-- The stale step reports the records of its step after those of the report it was given. -/
theorem expireStaleInvoices_behaves (start : Facts) (keyed : start.store.Keyed) (report : Report) :
    Behaves exposure now headcount (· = start) (expireStaleInvoices report)
      (fun next after => ∃ records, next.named = report.named ++ records.map (Step.staleInvoices, ·) ∧
        StaleStep exposure now start records after)
      (fun _ _ => True) := by
  unfold expireStaleInvoices
  refine Behaves.bind ((Behaves.attempt (expireStale_behaves start keyed)).mono (fun _ same => same)
    (fun _ _ given => given) fun _ _ _ => trivial) fun result => ?_
  cases result with
  | ok sweep =>
    refine (Behaves.pure _).mono (fun _ held => held) (fun _ after ⟨same, cutoff, cut, progress⟩ => ?_)
      fun _ _ halted => halted
    refine ⟨_, ?_, progress.stale_step keyed cut⟩
    rw [same, Report.named_foldl_fail, List.map_map]
    rfl
  | error failure =>
    refine Behaves.bind (Behaves.emit _ _ _ _) fun _ => (Behaves.pure _).mono (fun _ held => held)
      (fun _ after ⟨same, halted⟩ => ?_) fun _ _ halted => halted
    obtain ⟨honest, unchanged⟩ := halted failure rfl
    subst unchanged
    exact ⟨[none], by rw [same, Report.named_fail]; rfl, StaleStep.of_unlisted _ honest⟩

/-! ## Due changes -/

/-- The subscriptions listed with a change waiting have distinct identifiers. -/
theorem listWithPendingChanges_nodup {store : Store} (keyed : store.Keyed) (dueBy : Option Moment) :
    ((store.listWithPendingChanges dueBy).map (·.id)).Nodup := by
  unfold Store.listWithPendingChanges
  exact (((List.mergeSort_perm _ _).map _).nodup_iff).mpr (keyed.subscriptions.sublist (List.filter_sublist.map _))

/-- A subscription not listed with a change due by `now` is at its fate where it stands. -/
theorem Committed.of_unlisted {settings : Config} {catalog store : Store} {id : Uuid}
    (unlisted : id ∉ (store.listWithPendingChanges (some now)).map (·.id)) :
    Option.Rel (Committed settings now headcount catalog) (store.subscription? id) (store.subscription? id) := by
  cases stored : store.subscription? id with
  | none => exact .none
  | some current =>
    refine .some (.of_not_due fun ⟨pending, due⟩ => unlisted (List.mem_map.mpr ⟨current, ?_, Store.subscription?_id stored⟩))
    unfold Store.listWithPendingChanges
    rw [List.mem_mergeSort, List.mem_filter]
    exact ⟨List.mem_of_find?_eq_some stored, by simp [pending, due]⟩

/-- What the pending-changes step has done from `start` once it has visited the subscriptions
`done` and reported the identifiers `records`: it kept the configuration, the plans and the
invoices; every subscription it has not visited is as it was; every one it visited is at its
fate or, reported under an honest fault, as it was. -/
structure ChangeProgress (exposure : Exposure) (now : Moment) (headcount : List (Uuid × Int)) (start : Facts)
    (done : List Subscription) (records : List Uuid) (after : Facts) : Prop where
  config : after.config = start.config
  plans : after.store.plans = start.store.plans
  invoices : after.store.invoices = start.store.invoices
  reported : records.Sublist (done.map (·.id))
  untouched : ∀ id, id ∉ done.map (·.id) → after.store.subscription? id = start.store.subscription? id
  settled : ∀ id ∈ done.map (·.id), Option.Rel (Committed start.config now headcount start.store)
      (start.store.subscription? id) (after.store.subscription? id) ∨
    (exposure = .honest ∧ id ∈ records ∧ after.store.subscription? id = start.store.subscription? id)

namespace ChangeProgress

variable {start middle after : Facts} {done : List Subscription} {records : List Uuid} {subscription : Subscription}

theorem begin (start : Facts) : ChangeProgress exposure now headcount start [] [] start :=
  ⟨rfl, rfl, rfl, .slnil, fun _ _ => rfl, fun _ member => absurd member List.not_mem_nil⟩

/-- Visiting the next subscription puts `result` under its identifier: its fate, or, when it is
reported under an honest fault, itself. -/
theorem put (progress : ChangeProgress exposure now headcount start done records middle)
    (found : start.store.subscription? subscription.id = some subscription) {more : List Uuid} {result : Subscription}
    (putting : after.Putting middle subscription.id result) (grown : ∀ id ∈ records, id ∈ more)
    (within : more.Sublist ((done ++ [subscription]).map (·.id)))
    (placed : Committed start.config now headcount start.store subscription result ∨
      (exposure = .honest ∧ subscription.id ∈ more ∧ result = subscription)) :
    ChangeProgress exposure now headcount start (done ++ [subscription]) more after := by
  refine ⟨putting.config.trans progress.config, putting.plans.trans progress.plans,
    putting.invoices.trans progress.invoices, within, fun id outside => ?_, fun id inside => ?_⟩
  · simp only [List.map_append, List.map_cons, List.map_nil, List.mem_append, List.mem_singleton, not_or] at outside
    rw [putting.subscription?, if_neg outside.2]
    exact progress.untouched id outside.1
  · rw [putting.subscription?]
    split
    · rename_i same
      subst same
      rw [found]
      rcases placed with fate | ⟨honest, listed, same⟩
      · exact .inl (.some fate)
      · exact .inr ⟨honest, listed, by rw [same]⟩
    · rename_i other
      simp only [List.map_append, List.map_cons, List.map_nil, List.mem_append, List.mem_singleton] at inside
      rcases progress.settled id (inside.resolve_right other) with fate | ⟨honest, listed, same⟩
      · exact .inl fate
      · exact .inr ⟨honest, grown id listed, same⟩

/-- A commit that ended puts the subscription at its fate, and reports nothing. -/
theorem commit (progress : ChangeProgress exposure now headcount start done records middle)
    (found : start.store.subscription? subscription.id = some subscription)
    (commits : after.CommitsAt middle now headcount start.store subscription) :
    ChangeProgress exposure now headcount start (done ++ [subscription]) records after := by
  obtain ⟨result, fate, putting⟩ := commits
  refine progress.put found putting (fun _ listed => listed) ?_ (.inl (progress.config ▸ fate))
  rw [List.map_append]
  exact progress.reported.trans (List.sublist_append_left _ _)

/-- A commit that failed or ran out of time is reported, with the subscription at its fate or,
under an honest fault, as it was. -/
theorem report (progress : ChangeProgress exposure now headcount start done records middle)
    (found : start.store.subscription? subscription.id = some subscription)
    (left : after.CommitsAt middle now headcount start.store subscription ∨
      (exposure = .honest ∧ after.Putting middle subscription.id subscription)) :
    ChangeProgress exposure now headcount start (done ++ [subscription]) (records ++ [subscription.id]) after := by
  have within : (records ++ [subscription.id]).Sublist ((done ++ [subscription]).map (·.id)) := by
    rw [List.map_append]
    exact progress.reported.append (List.Sublist.refl _)
  have grown : ∀ id ∈ records, id ∈ records ++ [subscription.id] := fun _ listed => List.mem_append_left _ listed
  rcases left with ⟨result, fate, putting⟩ | ⟨honest, putting⟩
  · exact progress.put found putting grown within (.inl (progress.config ▸ fate))
  · exact progress.put found putting grown within (.inr ⟨honest, List.mem_append_right _ (List.mem_singleton_self _), rfl⟩)

end ChangeProgress

/-- Committing one listed change: whatever it ends with, the subscription is where the progress
of the step says, and a failure or a timeout is reported under its identifier. -/
theorem commitOne_behaves (limit : Nat) (base : List (Step × Option Uuid)) (current : Report) (start : Facts)
    {done : List Subscription} {subscription : Subscription}
    (found : start.store.subscription? subscription.id = some subscription) (fresh : subscription.id ∉ done.map (·.id)) :
    Behaves exposure now headcount
      (fun after => ∃ records, current.named = base ++ records.map (Step.pendingChanges, some ·) ∧
        ChangeProgress exposure now headcount start done records after)
      (commitOne limit current subscription)
      (fun next after => ∃ records, next.named = base ++ records.map (Step.pendingChanges, some ·) ∧
        ChangeProgress exposure now headcount start (done ++ [subscription]) records after)
      (fun _ _ => True) := by
  refine Behaves.of_facts fun middle ⟨records, named, progress⟩ => ?_
  have here : middle.store.subscription? subscription.id = some subscription := (progress.untouched _ fresh).trans found
  -- a commit stopped by anything but a version out of range is at its fate or, under an honest
  -- fault, where it was
  have excused : ∀ (halt : Halt) (after : Facts), halt ≠ .overflow →
      (after.Putting middle subscription.id subscription ∨ after.CommitsAt middle now headcount start.store subscription) ∧
        (halt = .overflow ∨ exposure = .honest ∨ after.CommitsAt middle now headcount start.store subscription) →
      after.CommitsAt middle now headcount start.store subscription ∨
        (exposure = .honest ∧ after.Putting middle subscription.id subscription) := by
    rintro halt after notOverflow ⟨kept | commits, overflowed | honest | commits⟩
    · exact absurd overflowed notOverflow
    · exact .inr ⟨honest, kept⟩
    · exact .inl commits
    all_goals exact .inl commits
  have committing : ∀ next : Report, next.failures = current.failures →
      Behaves exposure now headcount (fun after => after.CommitsAt middle now headcount start.store subscription)
        (Pure.pure next)
        (fun next after => ∃ records, next.named = base ++ records.map (Step.pendingChanges, some ·) ∧
          ChangeProgress exposure now headcount start (done ++ [subscription]) records after) (fun _ _ => True) :=
    fun next same => (Behaves.pure _).mono (fun _ held => held)
      (fun _ _ ⟨returned, commits⟩ => ⟨records, by rw [returned, Report.named, same]; exact named,
        progress.commit found commits⟩) fun _ _ halted => halted
  have reporting : ∀ message, Behaves exposure now headcount
      (fun after => after.CommitsAt middle now headcount start.store subscription ∨
        (exposure = .honest ∧ after.Putting middle subscription.id subscription))
      (Pure.pure (current.fail .pendingChanges (some subscription.id) message))
      (fun next after => ∃ records, next.named = base ++ records.map (Step.pendingChanges, some ·) ∧
        ChangeProgress exposure now headcount start (done ++ [subscription]) records after) (fun _ _ => True) :=
    fun message => (Behaves.pure _).mono (fun _ held => held)
      (fun _ _ ⟨returned, left⟩ => ⟨records ++ [subscription.id],
        by rw [returned, Report.named_fail, named, List.map_append, List.append_assoc]; rfl,
        progress.report found left⟩) fun _ _ halted => halted
  unfold commitOne
  dsimp only
  refine Behaves.bind (?_ : Behaves exposure now headcount (· = middle) _
    (fun outcome after => match outcome with
      | some (.ok _) => after.CommitsAt middle now headcount start.store subscription
      | some (.error _) | none => after.CommitsAt middle now headcount start.store subscription ∨
          (exposure = .honest ∧ after.Putting middle subscription.id subscription)) _) fun outcome => ?_
  · refine (withinLimit_behaves limit (Ledger.commitPendingChange_behaves middle progress.plans here)).mono
      (fun _ same => same) (fun outcome after given => ?_) fun _ _ _ => trivial
    rcases outcome with _ | failure | result
    · exact excused .elapsed _ nofun given
    · exact excused (.failed failure) _ nofun given
    · exact given
  rcases outcome with _ | failure | result
  · exact Behaves.bind (Behaves.emit _ _ _ _) fun _ => reporting _
  · exact Behaves.bind (Behaves.emit _ _ _ _) fun _ => reporting _
  · cases result with
    | notEligible => exact Behaves.bind (Behaves.emit _ _ _ _) fun _ => committing _ rfl
    | _ => exact committing _ rfl

/-- What the pending-changes step leaves from `start`, having reported `records` (a
subscription's identifier, or none for the listing): the configuration, the plans and the
invoices as they were; no record reported twice, and no listing without faults; nothing changed
when it could not list the due changes; and otherwise every subscription at its fate or,
reported under an honest fault, as it was. -/
structure ChangeStep (exposure : Exposure) (now : Moment) (headcount : List (Uuid × Int)) (start : Facts)
    (records : List (Option Uuid)) (after : Facts) : Prop where
  config : after.config = start.config
  plans : after.store.plans = start.store.plans
  invoices : after.store.invoices = start.store.invoices
  distinct : records.Nodup
  calm : exposure = .calm → none ∉ records
  unlisted : none ∈ records → ∀ id, after.store.subscription? id = start.store.subscription? id
  listed : none ∉ records → ∀ id, Option.Rel (Committed start.config now headcount start.store)
      (start.store.subscription? id) (after.store.subscription? id) ∨
    (exposure = .honest ∧ some id ∈ records ∧ after.store.subscription? id = start.store.subscription? id)

/-- A pending-changes step that visited every listed subscription leaves its step with the
subscriptions it reported. -/
theorem ChangeProgress.change_step {start after : Facts} {records : List Uuid} (keyed : start.store.Keyed)
    (progress : ChangeProgress exposure now headcount start (start.store.listWithPendingChanges (some now)) records after) :
    ChangeStep exposure now headcount start (records.map some) after := by
  have distinct := (listWithPendingChanges_nodup keyed (some now)).sublist progress.reported
  refine ⟨progress.config, progress.plans, progress.invoices, distinct.map fun _ _ same => Option.some.inj same,
    fun _ => by simp, fun named => by simp at named, fun _ id => ?_⟩
  by_cases visited : id ∈ (start.store.listWithPendingChanges (some now)).map (·.id)
  · rcases progress.settled id visited with fate | ⟨honest, reported, same⟩
    · exact .inl fate
    · exact .inr ⟨honest, List.mem_map_of_mem reported, same⟩
  · rw [progress.untouched id visited]
    exact .inl (Committed.of_unlisted visited)

/-- A pending-changes step that could not list the due changes changed nothing. -/
theorem ChangeStep.of_unlisted (start : Facts) (honest : exposure = .honest) :
    ChangeStep exposure now headcount start [none] start :=
  ⟨rfl, rfl, rfl, List.nodup_singleton _, fun calm => absurd (calm.symm.trans honest) nofun, fun _ _ => rfl,
    fun notListed => absurd (List.mem_singleton_self _) notListed⟩

/-- The pending-changes step reports the records of its step after those of the report it was
given. -/
theorem commitPendingChanges_behaves (start : Facts) (keyed : start.store.Keyed) (report : Report) :
    Behaves exposure now headcount (· = start) (commitPendingChanges report)
      (fun next after => ∃ records, next.named = report.named ++ records.map (Step.pendingChanges, ·) ∧
        ChangeStep exposure now headcount start records after)
      (fun _ _ => True) := by
  -- the due changes are listed as they stand, or an honest fault stops the listing
  have listing : Behaves exposure now headcount (· = start) Ledger.duePendingChanges
      (fun due after => due = start.store.listWithPendingChanges (some now) ∧ after = start)
      (fun _ after => exposure = .honest ∧ after = start) := by
    unfold Ledger.duePendingChanges
    refine Behaves.bind Behaves.clock fun at_ => Behaves.of_facts fun clocked ⟨read, same⟩ => ?_
    subst at_ clocked
    exact (Behaves.readCall _ _ _ _ _ _).mono (fun _ same => same)
      (fun _ _ ⟨listed, same⟩ => by subst same; exact ⟨listed, rfl⟩) fun _ _ halted => halted
  unfold commitPendingChanges
  refine Behaves.bind ((Behaves.attempt listing).mono (fun _ same => same) (fun _ _ given => given)
    fun _ _ _ => trivial) fun result => ?_
  cases result with
  | error failure =>
    refine Behaves.bind (Behaves.emit _ _ _ _) fun _ => (Behaves.pure _).mono (fun _ held => held)
      (fun _ after ⟨same, honest, unchanged⟩ => ?_) fun _ _ halted => halted
    subst unchanged
    exact ⟨[none], by rw [same, Report.named_fail]; rfl, ChangeStep.of_unlisted _ honest⟩
  | ok due =>
    refine Behaves.of_facts fun listed ⟨dueListed, same⟩ => ?_
    subst listed due
    refine Behaves.bind Behaves.config fun settings => Behaves.of_facts fun configured ⟨read, same⟩ => ?_
    subst configured settings
    -- each commit keeps the progress of the step, indexed by the subscriptions visited
    have visiting : ∀ done subscription left (current : Report),
        done ++ subscription :: left = start.store.listWithPendingChanges (some now) →
        Behaves exposure now headcount
          (fun after => ∃ records, current.named = report.named ++ records.map (Step.pendingChanges, some ·) ∧
            ChangeProgress exposure now headcount start done records after)
          (commitOne start.config.recordTimeout current subscription)
          (fun next after => ∃ records, next.named = report.named ++ records.map (Step.pendingChanges, some ·) ∧
            ChangeProgress exposure now headcount start (done ++ [subscription]) records after)
          (fun _ _ => True) := by
      intro done subscription left current walk
      have listed : subscription ∈ start.store.listWithPendingChanges (some now) :=
        walk ▸ List.mem_append_right done (List.mem_cons_self ..)
      exact commitOne_behaves _ _ _ _ (keyed.subscription?_of_mem (Store.mem_of_mem_listWithPendingChanges listed))
        (fresh_of_walk (listWithPendingChanges_nodup keyed _) walk)
    refine (Behaves.foldlM (commitOne start.config.recordTimeout) _ visiting _ [] report (List.nil_append _)).mono
      (fun _ same => ⟨[], by rw [List.map_nil, List.append_nil], by rw [same]; exact ChangeProgress.begin start⟩)
      (fun _ _ ⟨records, named, progress⟩ => ⟨records.map some, ?_, progress.change_step keyed⟩) fun _ _ _ => trivial
    rw [named, List.map_map]
    rfl

/-! ## Lapsed subscriptions -/

/-- What the expiry step leaves from `start`, having reported `records` and made the first
`count` of its moves: every subscription after those moves; all three unless it reported the
pass, which it does only under an honest fault. -/
structure LapseStep (exposure : Exposure) (now : Moment) (start : Facts) (records : List (Option Uuid)) (count : Nat)
    (after : Facts) : Prop where
  moved : after.Holding start (start.store.subscriptions.map (lapsed start.config now count)) start.store.invoices
  bounded : count ≤ 3
  complete : records = [] → count = 3
  reported : records = [] ∨ (exposure = .honest ∧ records = [none])

/-- The expiry step reports the pass, if it must, after the records of the report it was given. -/
theorem expireLapsed_behaves (start : Facts) (grace : 0 ≤ start.config.gracePeriod.seconds) (report : Report) :
    Behaves exposure now headcount (· = start) (expireLapsed report)
      (fun next after => ∃ records count, next.named = report.named ++ records.map (Step.expiry, ·) ∧
        LapseStep exposure now start records count after)
      (fun _ _ => True) := by
  unfold expireLapsed
  refine Behaves.bind Behaves.config fun settings => Behaves.of_facts fun configured ⟨read, same⟩ => ?_
  subst configured settings
  refine Behaves.bind ((withinLimit_behaves _ (Ledger.expireLapsed_behaves start grace)).mono (fun _ same => same)
    (fun _ _ given => given) fun _ _ _ => trivial) fun outcome => ?_
  -- a pass that failed or ran out of time made fewer moves, under an honest fault
  have reporting : ∀ (halt : Halt) message, halt ≠ .overflow →
      Behaves exposure now headcount
        (fun after => ∃ count < 3, after.Holding start (start.store.subscriptions.map (lapsed start.config now count))
          start.store.invoices ∧ (exposure = .honest ∨ halt = .overflow))
        (Pure.pure (report.fail .expiry none message))
        (fun next after => ∃ records count, next.named = report.named ++ records.map (Step.expiry, ·) ∧
          LapseStep exposure now start records count after) (fun _ _ => True) :=
    fun halt message notOverflow => (Behaves.pure _).mono (fun _ held => held)
      (fun _ _ ⟨same, count, fewer, moved, excused⟩ => ⟨[none], count, by rw [same, Report.named_fail]; rfl,
        moved, Nat.le_of_lt fewer, nofun, .inr ⟨excused.resolve_right notOverflow, rfl⟩⟩) fun _ _ halted => halted
  rcases outcome with _ | failure | counts
  · exact Behaves.bind (Behaves.emit _ _ _ _) fun _ => reporting .elapsed _ nofun
  · exact Behaves.bind (Behaves.emit _ _ _ _) fun _ => reporting (.failed failure) _ nofun
  · exact (Behaves.pure _).mono (fun _ held => held)
      (fun _ _ ⟨same, moved⟩ => ⟨[], 3, by rw [same, List.map_nil, List.append_nil]; rfl,
        moved, Nat.le_refl 3, fun _ => rfl, .inl rfl⟩) fun _ _ halted => halted

/-- The summary only logs. -/
theorem logSummary_behaves {pre : Facts → Prop} {halts : Halt → Facts → Prop} (report : Report) :
    Behaves exposure now headcount pre (logSummary report) (fun _ facts => pre facts) halts := by
  unfold logSummary
  split
  · exact Behaves.emit _ _ _ _
  · exact Behaves.emit _ _ _ _

/-! ## A whole sweep -/

/-- A sweep from keyed records, with a grace period that is not negative, runs its three steps
one after the other: its report names what the stale step reported, then what the
pending-changes step reported, then the expiry pass if it was reported, and each step leaves
what its own summary says from where the step before left off. -/
theorem run_behaves (start : Facts) (keyed : start.store.Keyed) (grace : 0 ≤ start.config.gracePeriod.seconds) :
    Behaves exposure now headcount (· = start) run
      (fun report after => ∃ (stale changes expiry : List (Option Uuid)) (count : Nat) (first second : Facts),
        report.named = stale.map (Step.staleInvoices, ·) ++ changes.map (Step.pendingChanges, ·) ++
          expiry.map (Step.expiry, ·) ∧
        StaleStep exposure now start stale first ∧ ChangeStep exposure now headcount first changes second ∧
        LapseStep exposure now second expiry count after)
      (fun _ _ => True) := by
  unfold run
  refine Behaves.bind (expireStaleInvoices_behaves start keyed _) fun afterStale => ?_
  refine Behaves.of_facts fun first ⟨stale, staleNamed, staleStep⟩ => ?_
  -- the stale step keeps the subscriptions, so they stay keyed
  have firstKeyed : first.store.Keyed := by
    refine ⟨?_, ?_⟩
    · rw [staleStep.subscriptions]
      exact keyed.subscriptions
    · rw [staleStep.identifiers]
      exact keyed.invoices
  refine Behaves.bind (commitPendingChanges_behaves first firstKeyed _) fun afterChanges => ?_
  refine Behaves.of_facts fun second ⟨changes, changesNamed, changeStep⟩ => ?_
  have secondGrace : 0 ≤ second.config.gracePeriod.seconds := by
    rw [changeStep.config, staleStep.config]
    exact grace
  refine Behaves.bind (expireLapsed_behaves second secondGrace _) fun afterExpiry => ?_
  refine Behaves.bind (logSummary_behaves _) fun _ => (Behaves.pure _).mono (fun _ held => held)
    (fun _ _ ⟨same, expiry, count, expiryNamed, lapseStep⟩ =>
      ⟨stale, changes, expiry, count, first, second, ?_, staleStep, changeStep, lapseStep⟩) fun _ _ halted => halted
  rw [same, expiryNamed, changesNamed, staleNamed]
  rfl

end Sweep

end SeatBilling
