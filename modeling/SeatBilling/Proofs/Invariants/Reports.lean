import Mathlib.Data.List.Dedup
import SeatBilling.Proofs.Ledger.CommitDecision
import SeatBilling.Proofs.Webhook.DeliveryStages
import SeatBilling.Proofs.Services.CollaboratorFailures

/-!
# The invariant checks report exactly the breaches

`Invariants.runAll` runs the four checks in their order and sums up what they found. What it
should find is stated here from the rules alone, for any records at all, seeded ones that break
every rule included (`Summary.Reports`):

- the violations come check after check, and those of one check are, as a multiset, one for each
  record that breaks its rule: each company with more than one pending invoice, with the count;
  each subscription waiting for a plan of a higher tier than its own, or for a plan, or on a plan,
  that the catalog does not hold; each paid invoice with no time of payment; each subscription
  waiting for a seat cap below one;
- the failed checks are the distinct invariants among the violations, the passed ones the rest,
  and the records are healthy when nothing was found.

The multisets are compared through what a violation reports (`Violation.gist`): the invariant,
the companies and the context that names the record. With the records in memory and no fault
armed, the run changes nothing and reports exactly that. Whatever the backend and the faults, a
run fails only as a collaborator fails: a plan the catalog does not hold is a breach to report,
never a failure of the run.
-/

namespace SeatBilling

open SeatBilling.Time SeatBilling.Json

/-! ## The rules, read off the records -/

namespace Store

/-- The companies with more than one pending invoice, each once. -/
def crowdedCompanies (store : Store) : List Uuid :=
  (store.invoices.map (·.company)).dedup.filter fun company => 1 < (store.pendingOf company).length

/-- Whether a subscription waits for a plan of a higher tier than its own, or the catalog lacks
its plan or the plan it waits for. -/
def upgradeWaits (store : Store) (subscription : Subscription) : Bool :=
  match subscription.pendingPlan with
  | none => false
  | some target =>
    match store.plan? subscription.plan, store.plan? target with
    | some current, some pending => pending.isHigherTierThan current
    | _, _ => true

/-- The catalog's answer for a plan id: the plan, or not found. -/
def planLookup (store : Store) (id : String) : Except Failure Plan :=
  match store.plan? id with
  | some plan => .ok plan
  | none => .error (.notFound ("Plan '" ++ id ++ "' not found"))

end Store

/-- A paid invoice that records no time of payment. -/
def Invoice.paidUntimed (invoice : Invoice) : Bool := invoice.status == .paid && invoice.paidAt.isNone

/-- A subscription waiting for a seat cap below one. -/
def Subscription.seatsBelowOne (subscription : Subscription) : Bool :=
  match subscription.pendingMaxSeats with
  | some seats => decide (seats < 1)
  | none => false

theorem Store.upgradeWaits_pending {store : Store} {subscription : Subscription}
    (waits : store.upgradeWaits subscription = true) : subscription.hasPendingChange = true := by
  unfold Store.upgradeWaits at waits
  unfold Subscription.hasPendingChange
  cases waiting : subscription.pendingPlan with
  | none => simp [waiting] at waits
  | some target => simp

theorem Subscription.seatsBelowOne_pending {subscription : Subscription}
    (below : subscription.seatsBelowOne = true) : subscription.hasPendingChange = true := by
  unfold seatsBelowOne at below
  unfold hasPendingChange
  cases waiting : subscription.pendingMaxSeats with
  | none => simp [waiting] at below
  | some seats => simp

/-- The waiting changes listed with no due date are the subscriptions with one, in another order,
so a rule that only a waiting change can break finds the same breaches among either. -/
theorem Store.listWithPendingChanges_filter_perm (store : Store) {breaks : Subscription → Bool}
    (pending : ∀ subscription, breaks subscription = true → subscription.hasPendingChange = true) :
    ((store.listWithPendingChanges none).filter breaks).Perm (store.subscriptions.filter breaks) := by
  unfold listWithPendingChanges
  refine ((List.mergeSort_perm _ _).filter breaks).trans ?_
  rw [List.filter_filter]
  apply List.Perm.of_eq
  apply List.filter_congr
  intro subscription _
  cases broken : breaks subscription
  · rfl
  · simp [pending subscription broken]

namespace Invariants

/-- What a violation reports: the invariant, the companies it names and the context it carries. -/
def Violation.gist (violation : Violation) : String × List Uuid × Json :=
  (violation.invariant, violation.companies, violation.context)

/-- The report on a company with `count` pending invoices. -/
def crowdedGist (company : Uuid) (count : Int) : String × List Uuid × Json :=
  ("single_pending_invoice", [company], .obj [("pending_invoices", .int count)])

/-- The report on a subscription waiting for a plan it should not wait for. -/
def upgradeGist (subscription : Subscription) : String × List Uuid × Json :=
  ("pending_plan_not_upgrade", [subscription.company],
    .obj [("pending_plan_id", .str (subscription.pendingPlan.getD "")), ("plan_id", .str subscription.plan),
      ("subscription_id", .str subscription.id.hyphenated)])

/-- The report on a paid invoice with no time of payment. -/
def untimedGist (invoice : Invoice) : String × List Uuid × Json :=
  ("paid_invoice_has_paid_at", [invoice.company],
    .obj [("invoice_id", .str invoice.id.hyphenated), ("provider_invoice_id", Json.ofOptStr invoice.providerInvoiceId)])

/-- The report on a subscription waiting for a seat cap below one. -/
def seatsGist (subscription : Subscription) : String × List Uuid × Json :=
  ("pending_seats_positive", [subscription.company],
    .obj [("max_seats", .int subscription.maxSeats), ("pending_max_seats", Json.ofOptInt subscription.pendingMaxSeats),
      ("subscription_id", .str subscription.id.hyphenated)])

/-- What a run of every check should report about `store` at `clock`. -/
structure Summary.Reports (store : Store) (clock : Moment) (summary : Summary) : Prop where
  checkedAt : summary.checkedAt = clock
  checksRun : summary.checksRun = checks.length
  found : ∃ crowded upgrades untimed seats, summary.violations = crowded ++ upgrades ++ untimed ++ seats ∧
    (crowded.map Violation.gist).Perm
      (store.crowdedCompanies.map fun company => crowdedGist company (store.pendingOf company).length) ∧
    (upgrades.map Violation.gist).Perm ((store.subscriptions.filter store.upgradeWaits).map upgradeGist) ∧
    (untimed.map Violation.gist).Perm ((store.invoices.filter (·.paidUntimed)).map untimedGist) ∧
    (seats.map Violation.gist).Perm ((store.subscriptions.filter (·.seatsBelowOne)).map seatsGist)
  checksFailed : summary.checksFailed = (summary.violations.map (·.invariant)).dedup.length
  checksPassed : summary.checksPassed = checks.length - summary.checksFailed
  healthy : summary.healthy = true ↔ summary.violations = []

end Invariants

/-! ## Companies with several pending invoices -/

namespace Store

/-- Keeping each company the first time it comes keeps each company once. -/
theorem firsts_nodup_mem : ∀ (companies seen : List Uuid), seen.Nodup →
    (companies.foldl (fun seen company => if seen.contains company then seen else seen ++ [company]) seen).Nodup ∧
      ∀ company, company ∈ companies.foldl (fun seen company => if seen.contains company then seen else seen ++ [company])
        seen ↔ company ∈ seen ∨ company ∈ companies := by
  intro companies
  induction companies with
  | nil => exact fun seen distinct => ⟨distinct, fun company => by simp⟩
  | cons first rest inductionHypothesis =>
    intro seen distinct
    rw [List.foldl_cons]
    by_cases known : first ∈ seen
    · have kept : (if seen.contains first then seen else seen ++ [first]) = seen := by simp [known]
      rw [kept]
      obtain ⟨nodup, members⟩ := inductionHypothesis seen distinct
      refine ⟨nodup, fun company => ?_⟩
      rw [members, List.mem_cons]
      constructor
      · rintro (old | later)
        · exact .inl old
        · exact .inr (.inr later)
      · rintro (old | rfl | later)
        · exact .inl old
        · exact .inl known
        · exact .inr later
    · have added : (if seen.contains first then seen else seen ++ [first]) = seen ++ [first] := by simp [known]
      rw [added]
      have grown : (seen ++ [first]).Nodup := List.nodup_append.mpr ⟨distinct, List.nodup_singleton first,
        fun old oldMember new newMember same => known (by simp_all)⟩
      obtain ⟨nodup, members⟩ := inductionHypothesis (seen ++ [first]) grown
      refine ⟨nodup, fun company => ?_⟩
      rw [members, List.mem_append, List.mem_singleton, List.mem_cons]
      tauto

/-- The pending invoices of a company, counted among the companies of all pending invoices. -/
theorem count_pendingCompanies (store : Store) (company : Uuid) :
    ((store.invoices.filter (·.isPending)).map (·.company)).count company = (store.pendingOf company).length := by
  rw [List.count_eq_countP, List.countP_map, List.countP_eq_length_filter, List.filter_filter]
  unfold pendingOf
  congr 1

@[simp] theorem mem_pendingOf {store : Store} {company : Uuid} {invoice : Invoice} :
    invoice ∈ store.pendingOf company ↔ invoice ∈ store.invoices ∧ invoice.company = company ∧ invoice.isPending = true := by
  simp [pendingOf]

/-- The store lists each company with more than one pending invoice once, with its count. -/
theorem companiesWithMultiplePendingInvoices_perm (store : Store) :
    store.companiesWithMultiplePendingInvoices.Perm
      (store.crowdedCompanies.map fun company => (company, ((store.pendingOf company).length : Int))) := by
  unfold companiesWithMultiplePendingInvoices crowdedCompanies
  obtain ⟨distinct, members⟩ := firsts_nodup_mem ((store.invoices.filter (·.isPending)).map (·.company)) [] List.nodup_nil
  have firstInjective : ∀ (count : Uuid → Int), Function.Injective fun company => (company, count company) :=
    fun _ _ _ same => congrArg Prod.fst same
  refine (List.perm_ext_iff_of_nodup ((distinct.map (firstInjective _)).filter _)
    (((List.nodup_dedup _).filter _).map (firstInjective _))).mpr ?_
  rintro ⟨company, count⟩
  simp only [List.mem_filter, List.mem_map, members, List.not_mem_nil, false_or, Prod.mk.injEq, List.mem_dedup,
    count_pendingCompanies, decide_eq_true_eq]
  constructor
  · rintro ⟨⟨_, ⟨invoice, ⟨stored, -⟩, rfl⟩, rfl, rfl⟩, crowded⟩
    exact ⟨_, ⟨⟨invoice, stored, rfl⟩, by exact_mod_cast crowded⟩, rfl, rfl⟩
  · rintro ⟨_, ⟨-, many⟩, rfl, rfl⟩
    -- a company with several pending invoices has one among the pending companies
    obtain ⟨invoice, pending⟩ := List.exists_mem_of_length_pos (Nat.zero_lt_of_lt many)
    obtain ⟨stored, same, isPending⟩ := mem_pendingOf.mp pending
    exact ⟨⟨_, ⟨invoice, ⟨stored, isPending⟩, same⟩, rfl, rfl⟩, by exact_mod_cast many⟩

end Store

/-! ## Each check in a steady world -/

namespace Calls

theorem companiesWithMultiplePendingInvoices_run {world : World} (steady : Steady world) :
    companiesWithMultiplePendingInvoices.run.run world = (.ok world.store.companiesWithMultiplePendingInvoices, world) := by
  rw [companiesWithMultiplePendingInvoices, guarded_run steady.noFaults, backed_run steady.inMemory, readStore_run]

end Calls

namespace Invariants

/-- A loop whose every step appends what `expect` says of its item gives all of it, item after
item. -/
theorem foldlM_run_appends {α β γ : Type} (world : World) (visit : List β → α → BillingM (List β))
    (shown : β → γ) (expect : α → List γ)
    (step : ∀ found item, ∃ extra, (visit found item).run.run world = (.ok (found ++ extra), world) ∧
      extra.map shown = expect item) :
    ∀ (items : List α) (found : List β), ∃ extra,
      (items.foldlM visit found).run.run world = (.ok (found ++ extra), world) ∧ extra.map shown = items.flatMap expect := by
  intro items
  induction items with
  | nil => exact fun found => ⟨[], by simp; rfl, rfl⟩
  | cons item rest inductionHypothesis =>
    intro found
    obtain ⟨extra, visited, shownExtra⟩ := step found item
    obtain ⟨more, folded, shownMore⟩ := inductionHypothesis (found ++ extra)
    refine ⟨extra ++ more, ?_, ?_⟩
    · rw [List.foldlM_cons, run_bind, visited]
      simpa only [List.append_assoc] using folded
    · rw [List.map_append, shownExtra, shownMore, List.flatMap_cons]

/-- Keeping one report for each item that breaks a rule is reporting on those items. -/
theorem flatMap_reports {α γ : Type} (breaks : α → Bool) (report : α → γ) :
    ∀ items : List α, (items.flatMap fun item => if breaks item then [report item] else []) =
      (items.filter breaks).map report := by
  intro items
  induction items with
  | nil => rfl
  | cons item rest inductionHypothesis =>
    rw [List.flatMap_cons, inductionHypothesis, List.filter_cons]
    cases breaks item <;> rfl

section Steady

variable {world : World} (steady : Steady world)
include steady

theorem singlePendingInvoice_reports :
    ∃ found, singlePendingInvoice.run.run world = (.ok found, world) ∧
      (found.map Violation.gist).Perm
        (world.store.crowdedCompanies.map fun company => crowdedGist company (world.store.pendingOf company).length) := by
  unfold singlePendingInvoice
  rw [run_bind, Calls.companiesWithMultiplePendingInvoices_run steady]
  refine ⟨_, rfl, ?_⟩
  rw [List.map_map]
  have reported := (Store.companiesWithMultiplePendingInvoices_perm world.store).map fun row => crowdedGist row.1 row.2
  rw [List.map_map] at reported
  exact reported

theorem attempt_getPlan_run (id : String) :
    (attempt (Catalog.getPlan id)).run.run world = (.ok (world.store.planLookup id), world) := by
  rw [Webhook.run_attempt]
  unfold Store.planLookup
  cases found : world.store.plan? id with
  | some plan => rw [Catalog.getPlan_run steady found]
  | none => rw [Ledger.Catalog.getPlan_run_missing steady found]

end Steady

/-- The breach, if any, of a waiting plan change whose plans were looked up in the catalog is
there exactly when the rule of waiting plans is broken. -/
theorem planChangeProblem_lookups (store : Store) (current target : String) :
    ∃ problem, planChangeProblem (store.planLookup current) (store.planLookup target) = .ok problem ∧
      problem.isSome = (match store.plan? current, store.plan? target with
        | some currentPlan, some targetPlan => targetPlan.isHigherTierThan currentPlan
        | _, _ => true) := by
  unfold Store.planLookup
  cases store.plan? current <;> cases store.plan? target
  all_goals simp only [planChangeProblem, Except.ok.injEq, exists_eq_left', Option.isSome_some]
  split <;> simp_all

section Steady

variable {world : World} (steady : Steady world)
include steady

theorem pendingPlanNotUpgrade_reports :
    ∃ found, pendingPlanNotUpgrade.run.run world = (.ok found, world) ∧
      (found.map Violation.gist).Perm ((world.store.subscriptions.filter world.store.upgradeWaits).map upgradeGist) := by
  unfold pendingPlanNotUpgrade
  rw [run_bind, Calls.listWithPendingChanges_run steady]
  dsimp only
  refine (foldlM_run_appends world _ Violation.gist
    (fun subscription => if world.store.upgradeWaits subscription then [upgradeGist subscription] else [])
    ?visit (world.store.listWithPendingChanges none) []).imp fun found appended => ⟨appended.1, ?_⟩
  case visit =>
    -- one subscription: its plans are looked up when it waits for one
    intro found subscription
    cases waiting : subscription.pendingPlan with
    | none => exact ⟨[], by simp; rfl, by simp [Store.upgradeWaits, waiting]⟩
    | some target =>
      obtain ⟨problem, judged, breach⟩ := planChangeProblem_lookups world.store subscription.plan target
      simp only [run_bind, attempt_getPlan_run steady, judged]
      have waits : world.store.upgradeWaits subscription = problem.isSome := by
        rw [breach, Store.upgradeWaits, waiting]
      cases problem with
      | none => exact ⟨[], by simp; rfl, by simp [waits]⟩
      | some description => exact ⟨_, rfl, by simp [waits, Violation.gist, upgradeGist, waiting]⟩
  rw [appended.2, flatMap_reports]
  exact (world.store.listWithPendingChanges_filter_perm fun _ => Store.upgradeWaits_pending).map upgradeGist

theorem paidInvoiceHasPaidAt_reports :
    ∃ found, paidInvoiceHasPaidAt.run.run world = (.ok found, world) ∧
      (found.map Violation.gist).Perm ((world.store.invoices.filter (·.paidUntimed)).map untimedGist) := by
  unfold paidInvoiceHasPaidAt
  rw [run_bind, Calls.paidInvoicesMissingPaidAt_run steady]
  refine ⟨_, rfl, ?_⟩
  rw [List.map_map]
  rfl

theorem pendingSeatsPositive_reports :
    ∃ found, pendingSeatsPositive.run.run world = (.ok found, world) ∧
      (found.map Violation.gist).Perm ((world.store.subscriptions.filter (·.seatsBelowOne)).map seatsGist) := by
  unfold pendingSeatsPositive
  rw [run_bind, Calls.listWithPendingChanges_run steady]
  refine ⟨_, rfl, ?_⟩
  rw [List.map_map]
  exact (world.store.listWithPendingChanges_filter_perm fun _ => Subscription.seatsBelowOne_pending).map seatsGist

end Steady

/-! ## Failures of a run -/

/-- A plan lookup fails as a collaborator fails, or finds no such plan. -/
theorem getPlan_fails_or_missing (id : String) :
    ∀ world failure after, (Catalog.getPlan id).run.run world = (.error (.failed failure), after) →
      failure.OfCollaborator ∨ ∃ what, failure = .notFound what := by
  intro world failure after failed
  unfold Catalog.getPlan at failed
  rw [run_bind] at failed
  rcases looked : (Calls.getPlan id).run.run world with ⟨halt | found, middle⟩
  · rw [looked] at failed
    cases failed
    exact .inl (Calls.getPlan_fails id world failure _ looked)
  · rw [looked] at failed
    cases found with
    | some plan => cases failed
    | none =>
      cases failed
      exact .inr ⟨_, rfl⟩

/-- What an attempted plan lookup gives as a failure is a collaborator's, or no such plan. -/
theorem attempt_getPlan_gives (id : String) {world after : World} {looked : Except Failure Plan}
    (ran : (attempt (Catalog.getPlan id)).run.run world = (.ok looked, after)) :
    ∀ failure, looked = .error failure → failure.OfCollaborator ∨ ∃ what, failure = .notFound what := by
  rintro failure rfl
  rw [Webhook.run_attempt] at ran
  rcases fetched : (Catalog.getPlan id).run.run world with ⟨halt | plan, middle⟩
  · rw [fetched] at ran
    cases halt with
    | failed caught =>
      cases ran
      exact getPlan_fails_or_missing id world _ _ fetched
    | elapsed => cases ran
    | overflow => cases ran
  · rw [fetched] at ran
    cases ran

/-- Judging a plan change fails only with a failure of its lookups that is no plan's absence. -/
theorem planChangeProblem_failure {current target : Except Failure Plan} {failure : Failure}
    (currentGives : ∀ failure, current = .error failure → failure.OfCollaborator ∨ ∃ what, failure = .notFound what)
    (targetGives : ∀ failure, target = .error failure → failure.OfCollaborator ∨ ∃ what, failure = .notFound what)
    (judged : planChangeProblem current target = .error failure) : failure.OfCollaborator := by
  unfold planChangeProblem at judged
  split at judged
  · split at judged <;> cases judged
  · cases judged
  · cases judged
  · cases judged
    rcases currentGives _ rfl with collaborator | ⟨what, rfl⟩
    · exact collaborator
    · simp_all
  · cases judged
    rcases targetGives _ rfl with collaborator | ⟨what, rfl⟩
    · exact collaborator
    · simp_all

theorem pendingPlanNotUpgrade_fails : FailsAsCollaborator pendingPlanNotUpgrade := by
  unfold pendingPlanNotUpgrade
  refine .bind (Calls.listWithPendingChanges_fails none) fun pending => .foldlM (fun found subscription => ?_) pending []
  split
  · exact .pure found
  · -- a missing plan is a breach to report; only the lookups' other failures fail the check
    rename_i target _
    refine .bind_of _ (.attempt _) (fun _ _ _ ran => attempt_getPlan_gives _ ran) fun current currentGives => ?_
    refine .bind_of _ (.attempt _) (fun _ _ _ ran => attempt_getPlan_gives _ ran) fun pending pendingGives => ?_
    split
    · exact .failWith (planChangeProblem_failure currentGives pendingGives ‹_›)
    · exact .pure found
    · exact .pure _

theorem run_fails (name : String) : FailsAsCollaborator (run name) := by
  unfold run
  split
  · exact .bind Calls.companiesWithMultiplePendingInvoices_fails fun _ => .pure _
  · exact pendingPlanNotUpgrade_fails
  · exact .bind Calls.paidInvoicesMissingPaidAt_fails fun _ => .pure _
  · exact .bind (Calls.listWithPendingChanges_fails none) fun _ => .pure _
  · exact .pure _

theorem runAll_fails : FailsAsCollaborator runAll := by
  unfold runAll
  refine .bind (.foldlM (fun found name => .bind (run_fails name) fun _ => .pure _) checks []) fun _ => ?_
  exact .bind .now fun _ => .pure _

/-! ## The summary -/

/-- With each check's findings at hand, the run sums them up in the order of the checks. -/
theorem runAll_run_of {world : World} {crowded upgrades untimed seats : List Violation}
    (first : singlePendingInvoice.run.run world = (.ok crowded, world))
    (second : pendingPlanNotUpgrade.run.run world = (.ok upgrades, world))
    (third : paidInvoiceHasPaidAt.run.run world = (.ok untimed, world))
    (fourth : pendingSeatsPositive.run.run world = (.ok seats, world)) :
    runAll.run.run world =
      (.ok {
        checkedAt := world.clock, checksRun := checks.length,
        checksPassed := checks.length -
          (checks.filter fun name => (crowded ++ upgrades ++ untimed ++ seats).any (·.invariant == name)).length,
        checksFailed :=
          (checks.filter fun name => (crowded ++ upgrades ++ untimed ++ seats).any (·.invariant == name)).length,
        violations := crowded ++ upgrades ++ untimed ++ seats,
        healthy := (crowded ++ upgrades ++ untimed ++ seats).isEmpty }, world) := by
  unfold runAll
  simp only [checks, List.foldlM_cons, List.foldlM_nil, run_bind, run, first, second, third, fourth, run_pure,
    run_now, List.nil_append]

/-- Of distinct names, those some violation carries are as many as the distinct names the
violations carry, when every violation carries one of them. -/
theorem filter_named_length {names : List String} (distinct : names.Nodup) {violations : List Violation}
    (named : ∀ violation ∈ violations, violation.invariant ∈ names) :
    (names.filter fun name => violations.any (·.invariant == name)).length =
      (violations.map (·.invariant)).dedup.length := by
  apply List.Perm.length_eq
  refine (List.perm_ext_iff_of_nodup (distinct.filter _) (List.nodup_dedup _)).mpr fun name => ?_
  simp only [List.mem_filter, List.any_eq_true, beq_iff_eq, List.mem_dedup, List.mem_map]
  constructor
  · rintro ⟨-, violation, member, rfl⟩
    exact ⟨violation, member, rfl⟩
  · rintro ⟨violation, member, rfl⟩
    exact ⟨named violation member, violation, member, rfl⟩

/-- Violations reported as one report per item, each on one invariant, carry that invariant. -/
theorem invariant_eq_of_perm {β : Type} (name : String) {found : List Violation} {items : List β}
    {report : β → String × List Uuid × Json} (same : (found.map Violation.gist).Perm (items.map report))
    (naming : ∀ item, (report item).1 = name) : ∀ violation ∈ found, violation.invariant = name := by
  intro violation member
  obtain ⟨item, -, reported⟩ := List.mem_map.mp (same.subset (List.mem_map_of_mem member))
  rw [← naming item, reported]
  rfl

/-- The invariant checks report exactly the breaches of the records. Whatever the backend and the
armed faults, a run fails only with a collaborator's failure: a plan missing from the catalog is
reported, never a failure of the run. With the records in memory and no fault armed, the run
changes nothing, and its summary reports, check after check, one violation for each record that
breaks the check's rule, with the failed checks counted as the distinct invariants broken. -/
theorem invariant_checks_report_exactly :
    FailsAsCollaborator runAll ∧
      ∀ world, Steady world → ∃ summary, runAll.run.run world = (.ok summary, world) ∧
        summary.Reports world.store world.clock := by
  refine ⟨?_, fun world steady => ?_⟩
  · exact runAll_fails
  · obtain ⟨crowded, first, crowdedReported⟩ := singlePendingInvoice_reports steady
    obtain ⟨upgrades, second, upgradesReported⟩ := pendingPlanNotUpgrade_reports steady
    obtain ⟨untimed, third, untimedReported⟩ := paidInvoiceHasPaidAt_reports steady
    obtain ⟨seats, fourth, seatsReported⟩ := pendingSeatsPositive_reports steady
    refine ⟨_, runAll_run_of first second third fourth, ?_⟩
    have named : ∀ violation ∈ crowded ++ upgrades ++ untimed ++ seats, violation.invariant ∈ checks := by
      intro violation member
      simp only [List.mem_append] at member
      rcases member with ((inCrowded | inUpgrades) | inUntimed) | inSeats
      · rw [invariant_eq_of_perm "single_pending_invoice" crowdedReported (fun _ => rfl) violation inCrowded]
        simp [checks]
      · rw [invariant_eq_of_perm "pending_plan_not_upgrade" upgradesReported (fun _ => rfl) violation inUpgrades]
        simp [checks]
      · rw [invariant_eq_of_perm "paid_invoice_has_paid_at" untimedReported (fun _ => rfl) violation inUntimed]
        simp [checks]
      · rw [invariant_eq_of_perm "pending_seats_positive" seatsReported (fun _ => rfl) violation inSeats]
        simp [checks]
    have counted := filter_named_length (by decide) named
    exact ⟨rfl, rfl, ⟨crowded, upgrades, untimed, seats, rfl, crowdedReported, upgradesReported, untimedReported,
      seatsReported⟩, counted, by rw [counted], List.isEmpty_iff⟩

/-- The quiet world of the examples with a record breaking each rule: two pending invoices of one
company, and a subscription waiting for a plan the catalog lacks and for no seats at all. -/
def breachedWorld : World :=
  { Ledger.quietStart with
    store := { Ledger.quietStart.store with
      invoices := [Ledger.examplePending (Uuid.ofSerial 1), Ledger.examplePending (Uuid.ofSerial 2)],
      subscriptions := [{ januarySubscription with pendingPlan := some "gold", pendingMaxSeats := some 0 }] } }

/-- In the breached world the company with two pending invoices is the one crowded company, and
the run reports every breach. -/
theorem breached_world_reports_each :
    breachedWorld.store.crowdedCompanies = [Ledger.exampleCompany] ∧
      ∃ summary, runAll.run.run breachedWorld = (.ok summary, breachedWorld) ∧
        summary.Reports breachedWorld.store breachedWorld.clock :=
  ⟨by decide, invariant_checks_report_exactly.2 breachedWorld ⟨rfl, rfl⟩⟩

end Invariants

end SeatBilling
