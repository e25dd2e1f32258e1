import SeatBilling.Proofs.Sweep.Steps
import SeatBilling.Proofs.Ledger.PaidTime

/-!
# A sweep isolates the records that fail

A sweep that meets faults giving no wrong answer does, record by record, what the same sweep
without them does, except for what it reports. A reported record may be as it was, or at its
fate when the fault came after the write; a step that could not list its records changed
none of them; and a reported expiry pass made only its first few moves, maybe none.

The comparison needs records keyed by identifier and a grace period that is not negative.
With a negative one, the expiry pass would move subscriptions still in their period, and it
runs only when some subscription has lapsed, so a change left waiting by a fault would decide
the fate of other subscriptions.
-/

namespace SeatBilling.Sweep

open SeatBilling.Time

/-- What a sweep from `world` that met faults, reporting `report` and leaving `after`, keeps of
the same sweep without faults, which left `clean`. -/
structure Isolates (world : World) (report : Report) (after clean : World) : Prop where
  once : report.named.Nodup
  staleListing : (Step.staleInvoices, none) ∈ report.named →
    ∀ id, after.store.invoice? id = world.store.invoice? id
  invoices : ∀ id, after.store.invoice? id = clean.store.invoice? id ∨
    ((Step.staleInvoices, some id) ∈ report.named ∨ (Step.staleInvoices, none) ∈ report.named) ∧
      after.store.invoice? id = world.store.invoice? id
  subscriptions : ∃ count ≤ 3, ((Step.expiry, none) ∉ report.named → count = 3) ∧
    ∃ settled : Uuid → Option Subscription, ∀ id,
      clean.store.subscription? id = (settled id).map (lapsed world.config world.clock 3) ∧
      ((Step.pendingChanges, none) ∈ report.named →
        after.store.subscription? id = (world.store.subscription? id).map (lapsed world.config world.clock count)) ∧
      ((Step.pendingChanges, none) ∉ report.named →
        after.store.subscription? id = (settled id).map (lapsed world.config world.clock count) ∨
          (Step.pendingChanges, some id) ∈ report.named ∧
            after.store.subscription? id = (world.store.subscription? id).map (lapsed world.config world.clock count))

/-! ## The report of three steps -/

section Named

variable {stale changes expiry : List (Option Uuid)}

theorem mem_steps {step : Step} {record : Option Uuid} :
    (step, record) ∈ stale.map (Step.staleInvoices, ·) ++ changes.map (Step.pendingChanges, ·) ++
        expiry.map (Step.expiry, ·) ↔
      step = .staleInvoices ∧ record ∈ stale ∨ step = .pendingChanges ∧ record ∈ changes ∨
        step = .expiry ∧ record ∈ expiry := by
  cases step <;> simp

theorem steps_nodup (staleDistinct : stale.Nodup) (changesDistinct : changes.Nodup) (expiryDistinct : expiry.Nodup) :
    (stale.map (Step.staleInvoices, ·) ++ changes.map (Step.pendingChanges, ·) ++ expiry.map (Step.expiry, ·)).Nodup := by
  have tagged : ∀ (step : Step) {records : List (Option Uuid)}, records.Nodup → (records.map (step, ·)).Nodup :=
    fun _ _ distinct => distinct.map fun _ _ same => (Prod.mk.inj same).2
  rw [List.nodup_append, List.nodup_append]
  -- records of different steps differ in their step
  refine ⟨⟨tagged _ staleDistinct, tagged _ changesDistinct, ?_⟩, tagged _ expiryDistinct, ?_⟩
  · simp
  · simp only [List.mem_append, List.mem_map]
    rintro _ (⟨_, _, rfl⟩ | ⟨_, _, rfl⟩) _ ⟨_, _, rfl⟩ same <;> cases same

end Named

/-! ## Each step against the same step without faults -/

theorem Committed.rel_unique {settings : Config} {now : Moment} {headcount : List (Uuid × Int)} {store : Store}
    {before first second : Option Subscription}
    (firstFate : Option.Rel (Committed settings now headcount store) before first)
    (secondFate : Option.Rel (Committed settings now headcount store) before second) : first = second := by
  cases firstFate with
  | none =>
    cases secondFate
    rfl
  | some fate =>
    cases secondFate with
    | some other => rw [fate.unique other]

theorem Committed.rel_of_plans {settings : Config} {now : Moment} {headcount : List (Uuid × Int)} {store other : Store}
    (samePlans : other.plans = store.plans) {before after : Option Subscription}
    (fate : Option.Rel (Committed settings now headcount store) before after) :
    Option.Rel (Committed settings now headcount other) before after := by
  cases fate with
  | none => exact .none
  | some fate => exact .some (fate.of_plans samePlans)

variable {now : Moment} {headcount : List (Uuid × Int)}

/-- Each invoice after the stale step with honest faults is where the step without faults left
it, or was reported, itself or as the listing, and is as it was. -/
theorem StaleStep.isolates {start first clean : Facts} {stale cleanStale : List (Option Uuid)}
    (faulted : StaleStep .honest now start stale first) (faultless : StaleStep .calm now start cleanStale clean)
    (id : Uuid) :
    first.store.invoice? id = clean.store.invoice? id ∨
      (some id ∈ stale ∨ none ∈ stale) ∧ first.store.invoice? id = start.store.invoice? id := by
  have cleanRecords : cleanStale = [] := faultless.calm rfl
  obtain ⟨cutoff, cut, cleanFates⟩ := faultless.listed (by rw [cleanRecords]; exact List.not_mem_nil)
  have cleanFate : clean.store.invoice? id = (start.store.invoice? id).map (staleExpired cutoff) :=
    (cleanFates id).1 (by rw [cleanRecords]; exact List.not_mem_nil)
  by_cases unlisted : none ∈ stale
  · exact .inr ⟨.inr unlisted, faulted.unlisted unlisted id⟩
  -- both steps listed the invoices, with the one cutoff of the clock
  obtain ⟨sameCutoff, sameCut, fates⟩ := faulted.listed unlisted
  have same : sameCutoff = cutoff := Option.some.inj (sameCut.symm.trans cut)
  subst same
  by_cases reported : some id ∈ stale
  · rcases (fates id).2 with kept | fate
    · exact .inr ⟨.inl reported, kept⟩
    · exact .inl (fate.trans cleanFate.symm)
  · exact .inl (((fates id).1 reported).trans cleanFate.symm)

/-- Each subscription after the pending-changes step with honest faults is where the step
without faults left it from the same subscriptions, or was reported and is as it was. -/
theorem ChangeStep.isolates {start cleanStart first clean : Facts} {changes cleanChanges : List (Option Uuid)}
    (faulted : ChangeStep .honest now headcount start changes first)
    (faultless : ChangeStep .calm now headcount cleanStart cleanChanges clean)
    (config : cleanStart.config = start.config) (plans : cleanStart.store.plans = start.store.plans)
    (subscriptions : cleanStart.store.subscriptions = start.store.subscriptions) (id : Uuid) :
    (none ∈ changes → first.store.subscription? id = start.store.subscription? id) ∧
      (none ∉ changes → first.store.subscription? id = clean.store.subscription? id ∨
        some id ∈ changes ∧ first.store.subscription? id = start.store.subscription? id) := by
  have cleanFate : Option.Rel (Committed start.config now headcount start.store) (start.store.subscription? id)
      (clean.store.subscription? id) := by
    rcases faultless.listed (faultless.calm rfl) id with fate | ⟨calm, _⟩
    · rw [config, Store.subscription?_eq_of_subscriptions subscriptions] at fate
      exact Committed.rel_of_plans plans.symm fate
    · cases calm
  refine ⟨fun unlisted => faulted.unlisted unlisted id, fun listed => ?_⟩
  rcases faulted.listed listed id with fate | ⟨-, reported, kept⟩
  · exact .inl (Committed.rel_unique fate cleanFate)
  · exact .inr ⟨reported, kept⟩

namespace LapseStep

variable {exposure : Exposure} {start after : Facts} {records : List (Option Uuid)} {count : Nat}

theorem subscription? (lapse : LapseStep exposure now start records count after) (id : Uuid) :
    after.store.subscription? id = (start.store.subscription? id).map (lapsed start.config now count) :=
  (lapse.moved.subscription? id).trans (Store.subscription?_map (lapsed_id start.config now count) id)

theorem invoice? (lapse : LapseStep exposure now start records count after) (id : Uuid) :
    after.store.invoice? id = start.store.invoice? id :=
  Store.invoice?_eq_of_invoices lapse.moved.invoices id

theorem distinct (lapse : LapseStep exposure now start records count after) : records.Nodup := by
  rcases lapse.reported with empty | ⟨-, single⟩
  · rw [empty]
    exact List.nodup_nil
  · rw [single]
    exact List.nodup_singleton _

/-- An expiry pass that was not reported made all three moves. -/
theorem complete_of_unreported (lapse : LapseStep exposure now start records count after)
    (unreported : none ∉ records) : count = 3 := by
  refine lapse.complete ?_
  rcases lapse.reported with empty | ⟨-, single⟩
  · exact empty
  · rw [single] at unreported
    exact absurd (List.mem_singleton_self _) unreported

end LapseStep

/-! ## A whole sweep against the same sweep without faults -/

theorem sweep_isolates_failed_records {world : World} (honest : Honest world) (keyed : world.store.Keyed)
    (grace : 0 ≤ world.config.gracePeriod.seconds) {report clean : Report}
    (faulted : (run.run.run world).1 = .ok report) (faultless : (run.run.run { world with faults := [] }).1 = .ok clean) :
    Isolates world report (run.run.run world).2 (run.run.run { world with faults := [] }).2 := by
  have faultedRun : Behaves .honest world.clock world.headcount _ run _ _ := run_behaves world.facts keyed grace
  have cleanRun : Behaves .calm world.clock world.headcount _ run _ _ := run_behaves world.facts keyed grace
  obtain ⟨stale, changes, expiry, count, first, second, named, staleStep, changeStep, lapseStep⟩ :=
    faultedRun.gives_of_run ⟨honest.inMemory, rfl, rfl⟩ honest.faults rfl faulted
  obtain ⟨cleanStale, cleanChanges, cleanExpiry, cleanCount, cleanFirst, cleanSecond, -, cleanStaleStep, cleanChangeStep,
    cleanLapseStep⟩ := cleanRun.gives_of_run
      (⟨honest.inMemory, rfl, rfl⟩ : World.Settled world.clock world.headcount { world with faults := [] }) rfl rfl
      faultless
  have reported : ∀ step record, (step, record) ∈ report.named ↔
      step = .staleInvoices ∧ record ∈ stale ∨ step = .pendingChanges ∧ record ∈ changes ∨
        step = .expiry ∧ record ∈ expiry := fun _ _ => by
    rw [named]
    exact mem_steps
  -- what each sweep leaves, read back through its expiry and pending-changes steps
  have faultedInvoice : ∀ id, (run.run.run world).2.store.invoice? id = first.store.invoice? id := fun id =>
    (lapseStep.invoice? id).trans (Store.invoice?_eq_of_invoices changeStep.invoices id)
  have cleanInvoice : ∀ id, (run.run.run { world with faults := [] }).2.store.invoice? id =
      cleanFirst.store.invoice? id := fun id =>
    (cleanLapseStep.invoice? id).trans (Store.invoice?_eq_of_invoices cleanChangeStep.invoices id)
  have secondConfig : second.config = world.config := changeStep.config.trans staleStep.config
  have cleanSecondConfig : cleanSecond.config = world.config := cleanChangeStep.config.trans cleanStaleStep.config
  have faultedSubscription : ∀ id, (run.run.run world).2.store.subscription? id =
      (second.store.subscription? id).map (lapsed world.config world.clock count) := fun id => by
    have moved := lapseStep.subscription? id
    rw [secondConfig] at moved
    exact moved
  -- without faults the expiry pass is not reported, so it made all three moves
  have cleanSubscription : ∀ id, (run.run.run { world with faults := [] }).2.store.subscription? id =
      (cleanSecond.store.subscription? id).map (lapsed world.config world.clock 3) := fun id => by
    have moved := cleanLapseStep.subscription? id
    rw [cleanSecondConfig, cleanLapseStep.complete (cleanLapseStep.reported.resolve_right nofun)] at moved
    exact moved
  have firstSubscription : ∀ id, first.store.subscription? id = world.store.subscription? id :=
    Store.subscription?_eq_of_subscriptions staleStep.subscriptions
  have changed := ChangeStep.isolates changeStep cleanChangeStep (cleanStaleStep.config.trans staleStep.config.symm)
    (cleanStaleStep.plans.trans staleStep.plans.symm) (cleanStaleStep.subscriptions.trans staleStep.subscriptions.symm)
  refine ⟨named ▸ steps_nodup staleStep.distinct changeStep.distinct lapseStep.distinct, fun unlisted id => ?_,
    fun id => ?_, ⟨count, lapseStep.bounded, fun unreported => ?_, fun id => cleanSecond.store.subscription? id,
      fun id => ⟨cleanSubscription id, fun unlisted => ?_, fun listed => ?_⟩⟩⟩
  · rw [faultedInvoice]
    exact staleStep.unlisted (by simpa using (reported _ _).mp unlisted) id
  · rw [faultedInvoice, cleanInvoice]
    rcases StaleStep.isolates staleStep cleanStaleStep id with same | ⟨listed, kept⟩
    · exact .inl same
    · refine .inr ⟨?_, kept⟩
      rcases listed with named | unlisted
      · exact .inl ((reported _ _).mpr (.inl ⟨rfl, named⟩))
      · exact .inr ((reported _ _).mpr (.inl ⟨rfl, unlisted⟩))
  · exact lapseStep.complete_of_unreported fun unlisted => unreported ((reported _ _).mpr (.inr (.inr ⟨rfl, unlisted⟩)))
  · rw [faultedSubscription, (changed id).1 (by simpa using (reported _ _).mp unlisted), firstSubscription]
  · have listed : none ∉ changes := fun unlisted => listed ((reported _ _).mpr (.inr (.inl ⟨rfl, unlisted⟩)))
    rw [faultedSubscription]
    rcases (changed id).2 listed with same | ⟨named, kept⟩
    · exact .inl (by rw [same])
    · exact .inr ⟨(reported _ _).mpr (.inr (.inl ⟨rfl, named⟩)), by rw [kept, firstSubscription]⟩

/-! ## Sweeps of the January world -/

/-- The January world two days on: its pending invoice is stale, and reading it back after the
move fails once. -/
def staleJanuaryWorld : World :=
  { januaryWorld with
    store := { januaryWorld.store with invoices := [Ledger.examplePending (Uuid.ofSerial 1)] }
    clock := ⟨(1767225600 + 2 * 86400) * nanosPerSecond, 0⟩
    faults := [⟨"get_invoice", .database, 1, "injected"⟩] }

def staleJanuaryReport : Report :=
  ⟨0, 0, [], ⟨0, 0, 0⟩, [⟨.staleInvoices, some (Uuid.ofSerial 1), "Database error: injected"⟩]⟩

theorem stale_january_sweep_isolates :
    Honest staleJanuaryWorld ∧ staleJanuaryWorld.store.Keyed ∧ 0 ≤ staleJanuaryWorld.config.gracePeriod.seconds ∧
      (run.run.run staleJanuaryWorld).1 = .ok staleJanuaryReport ∧
      (run.run.run { staleJanuaryWorld with faults := [] }).1 = .ok ⟨1, 0, [], ⟨0, 0, 0⟩, []⟩ ∧
      Isolates staleJanuaryWorld staleJanuaryReport (run.run.run staleJanuaryWorld).2
        (run.run.run { staleJanuaryWorld with faults := [] }).2 := by
  have honest : Honest staleJanuaryWorld :=
    ⟨rfl, fun fault armed => by rw [List.mem_singleton.mp armed]; exact ⟨nofun, nofun, nofun⟩⟩
  have keyed : staleJanuaryWorld.store.Keyed := ⟨List.nodup_singleton _, List.nodup_singleton _⟩
  have grace : 0 ≤ staleJanuaryWorld.config.gracePeriod.seconds := by decide
  -- the pending-changes step sorts its listing by well-founded recursion, which the kernel unfolds
  have faulted : (run.run.run staleJanuaryWorld).1 = .ok staleJanuaryReport := by decide +kernel
  have faultless : (run.run.run { staleJanuaryWorld with faults := [] }).1 = .ok ⟨1, 0, [], ⟨0, 0, 0⟩, []⟩ := by
    decide +kernel
  exact ⟨honest, keyed, grace, faulted, faultless, sweep_isolates_failed_records honest keyed grace faulted faultless⟩

/-- The January world on the first of February, with a cancelled subscription besides the
January one, and the second bulk move of the expiry pass failing. -/
def lapsingJanuaryWorld : World :=
  { januaryWorld with
    store := { januaryWorld.store with subscriptions :=
      [{ januarySubscription with id := Uuid.ofSerial 7, company := Uuid.ofSerial 1001, status := .cancelled },
        januarySubscription] }
    clock := ⟨(1767225600 + 31 * 86400) * nanosPerSecond, 0⟩
    faults := [⟨"update_expired_to_status", .pass, 1, ""⟩, ⟨"update_expired_to_status", .database, 1, "injected"⟩] }

/-- A subscription of another company whose period runs three days behind the January one. -/
def lateJanuarySubscription : Subscription :=
  { januarySubscription with
    id := Uuid.ofSerial 7
    company := Uuid.ofSerial 1001
    periodStart := ⟨(1767225600 + 3 * 86400) * nanosPerSecond, 0⟩
    periodEnd := ⟨(1767225600 + 33 * 86400) * nanosPerSecond, 0⟩ }

/-- The first of February with a grace period of minus five days: the January subscription has a
seat change due, whose read fails once, and `lateJanuarySubscription` is still in its period. -/
def negativeGraceWorld : World :=
  { januaryWorld with
    config := { januaryWorld.config with gracePeriod := ⟨-5 * 86400⟩ }
    store := { januaryWorld.store with subscriptions :=
      [{ januarySubscription with pendingMaxSeats := some 3 }, lateJanuarySubscription] }
    clock := ⟨(1767225600 + 31 * 86400) * nanosPerSecond, 0⟩
    faults := [⟨"get_subscription", .database, 1, "injected"⟩] }

/-- A reported record need not be as it was: the stale January invoice is reported and
expired, the reported expiry pass expired the cancelled subscription before it failed; and with
a negative grace period the change a fault left waiting sets off the expiry pass, which expires
a subscription no fault touched, active after the same sweep without faults. -/
theorem failed_sweeps_move_records :
    (run.run.run staleJanuaryWorld).1.map Report.named = .ok [(.staleInvoices, some (Uuid.ofSerial 1))] ∧
      staleJanuaryWorld.store.invoices.map (·.status) = [.pending] ∧
      (run.run.run staleJanuaryWorld).2.store.invoices.map (·.status) = [.expired] ∧
    (run.run.run lapsingJanuaryWorld).1.map Report.named = .ok [(.expiry, none)] ∧
      lapsingJanuaryWorld.store.subscriptions.map (·.status) = [.cancelled, .active] ∧
      (run.run.run lapsingJanuaryWorld).2.store.subscriptions.map (·.status) = [.expired, .active] ∧
    (run.run.run negativeGraceWorld).1.map Report.named = .ok [(.pendingChanges, some Uuid.nil)] ∧
      ((run.run.run negativeGraceWorld).2.store.subscription? lateJanuarySubscription.id).map (·.status) =
        some .expired ∧
      ((run.run.run { negativeGraceWorld with faults := [] }).2.store.subscription?
        lateJanuarySubscription.id).map (·.status) = some .active := by
  refine ⟨?_, rfl, ?_, ?_, rfl, ?_, ?_, ?_, ?_⟩ <;> decide +kernel

end SeatBilling.Sweep
