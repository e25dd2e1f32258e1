import SeatBilling.Proofs.Ledger.PaidTime
import SeatBilling.Access.Guard

/-!
# The snapshot fast path agrees with the ledger

An access check that is handed the snapshot a token carries first asks the snapshot, and asks
the ledger only when the snapshot does not allow the request on its own. Two facts make this
safe:

* a snapshot never denies: with a snapshot, a check either allows at once, changing nothing,
  or runs exactly as the check without one (`requireActive_run_some`,
  `requireFeature_run_some`); so it fails only where the ledger fails, with the same failure;
* a snapshot that promises no more than the stored subscription (`Snapshot.CoveredBy`: its
  status, an end of access no later, only its plan's features) allows only what the ledger
  allows, so the two-tier check answers as the ledger alone does. The snapshot of the stored
  subscription with its plan's features is covered, and so is that snapshot read back from the
  document a token carries, which keeps the end of access in whole seconds only.

The second fact holds where the ledger answers from the records in memory, with no fault armed
for the lookups the checks make (`LedgerAnswers`).
-/

namespace SeatBilling

open SeatBilling.Time SeatBilling.Json

/-! ## Calls with no fault armed -/

/-- A call for which no fault is armed takes none, and leaves the faults as they are. -/
theorem takeFault_of_unarmed {call : Call} :
    ∀ {faults : List Fault}, (∀ fault ∈ faults, fault.method ≠ call.name) → takeFault call faults = (none, faults) := by
  intro faults
  induction faults with
  | nil => intro _; rfl
  | cons first rest inductionHypothesis =>
    intro unarmed
    have other : first.method ≠ call.name := unarmed first List.mem_cons_self
    have later := inductionHypothesis fun fault member => unarmed fault (List.mem_cons_of_mem first member)
    simp [takeFault, other, later]

/-- A call for which no fault is armed does its work. -/
theorem guarded_run_of_unarmed {α : Type} {world : World} {call : Call}
    (unarmed : ∀ fault ∈ world.faults, fault.method ≠ call.name) (onStale onSkip onMissing : Option α)
    (work : BillingM α) :
    (guarded call onStale onSkip onMissing work).run.run world = work.run.run world := by
  simp only [guarded, run_bind, run_get, takeFault_of_unarmed unarmed, run_set]

namespace Access

/-! ## The snapshot asks first -/

/-- With a snapshot, requiring a usable subscription allows at once when the snapshot allows,
and is otherwise the check without a snapshot. -/
theorem requireActive_run_some (company : Uuid) (snapshot : Snapshot) (world : World) :
    (requireActive company (some snapshot)).run.run world =
      if snapshot.fastCheck world.clock = .allow then (.ok (), world)
      else (requireActive company none).run.run world := by
  conv => lhs; simp only [requireActive, run_bind, run_now]
  cases snapshot.fastCheck world.clock <;> rfl

/-- With a snapshot, requiring a feature allows at once when the snapshot allows the feature,
and is otherwise the check without a snapshot. -/
theorem requireFeature_run_some (company : Uuid) (code : String) (snapshot : Snapshot) (world : World) :
    (requireFeature company code (some snapshot)).run.run world =
      if snapshot.fastCheckFeature code world.clock = .allow then (.ok (), world)
      else (requireFeature company code none).run.run world := by
  conv => lhs; simp only [requireFeature, run_bind, run_now]
  cases snapshot.fastCheckFeature code world.clock <;> rfl

/-! ## Snapshots that promise no more than the ledger -/

namespace Snapshot

/-- A snapshot promises no more than a subscription on a plan: it has the subscription's
status, its end of access comes no later, and every feature it lists is one the plan
includes. -/
structure CoveredBy (snapshot : Snapshot) (subscription : Subscription) (plan : Plan) : Prop where
  status : snapshot.status = subscription.status
  expiresAt : snapshot.expiresAt ≤ subscription.periodEnd
  features : ∀ code ∈ snapshot.features, plan.includes code = true

theorem ofSubscription_coveredBy (subscription : Subscription) (plan : Plan) :
    (ofSubscription subscription plan.featureCodes).CoveredBy subscription plan := by
  refine ⟨rfl, Int.le_refl _, fun code listed => ?_⟩
  obtain ⟨feature, included, named⟩ := List.mem_map.mp listed
  exact List.any_eq_true.mpr ⟨feature, included, beq_iff_eq.mpr named⟩

namespace CoveredBy

variable {snapshot : Snapshot} {subscription : Subscription} {plan : Plan}

/-- What a covered snapshot allows, the subscription allows. -/
theorem grants (covered : snapshot.CoveredBy subscription plan) {now : Moment}
    (allows : snapshot.fastCheck now = .allow) : subscription.grantsAccess now = true := by
  unfold fastCheck at allows
  split at allows
  · rename_i live
    simp only [Bool.and_eq_true, Bool.not_eq_eq_eq_not, Bool.not_true, decide_eq_true_eq] at live
    have before : now < subscription.periodEnd := Int.lt_of_lt_of_le live.2 covered.expiresAt
    simp [Subscription.grantsAccess, ← covered.status, live.1, before]
  · cases allows

/-- A feature a covered snapshot allows, the subscription allows and its plan includes. -/
theorem includes (covered : snapshot.CoveredBy subscription plan) {now : Moment} {code : String}
    (allows : snapshot.fastCheckFeature code now = .allow) :
    subscription.grantsAccess now = true ∧ plan.includes code = true := by
  unfold fastCheckFeature at allows
  split at allows
  · rename_i live
    split at allows
    · rename_i listed
      exact ⟨covered.grants live, covered.features code (List.contains_iff_mem.mp listed)⟩
    · cases allows
  · cases allows

end CoveredBy

/-! ## The snapshot a token carries -/

theorem statusNamed_name (status : SubscriptionStatus) : statusNamed status.name = .ok status := by
  cases status <;> rfl

theorem decodeFeatures_codes (features : List String) :
    decodeFeatures (.arr (features.map Json.str)) = .ok features := by
  induction features with
  | nil => rfl
  | cons code rest inductionHypothesis =>
    simp only [decodeFeatures, List.map_cons, List.mapM_cons] at inductionHypothesis ⊢
    rw [inductionHypothesis]
    rfl

/-- A snapshot read back from its document keeps its status and features, and its end of
access as the whole seconds the document holds. -/
theorem decode_toJson (snapshot : Snapshot) :
    decode snapshot.toJson =
      (decodeExpiry (.int snapshot.expiresAt.unixSeconds)).map fun expiresAt => { snapshot with expiresAt } := by
  simp only [decode, toJson, List.foldlM_cons, List.foldlM_nil, Draft.take, decodeFeatures_codes,
    decodeStatus, statusNamed_name]
  cases decodeExpiry (.int snapshot.expiresAt.unixSeconds) <;> rfl

/-- An end of access decoded from whole seconds lies at that second. -/
theorem decodeExpiry_instant {seconds : Int} {moment : Moment} (decoded : decodeExpiry (.int seconds) = .ok moment) :
    moment.instant = seconds * nanosPerSecond := by
  simp only [decodeExpiry] at decoded
  split at decoded
  · cases decoded
  · split at decoded
    · rename_i found
      cases decoded
      split at found
      · simp only [Moment.ofUnixSeconds?, Moment.ofWall?] at found
        split at found
        · cases found
          simp [Moment.instant]
        · cases found
      · cases found
    · cases decoded

/-- Reading a snapshot back from its document cuts its end of access down to the whole second,
so what a snapshot covers, the one read back covers too. -/
theorem CoveredBy.of_decode {snapshot read : Snapshot} {subscription : Subscription} {plan : Plan}
    (covered : snapshot.CoveredBy subscription plan) (decoded : decode snapshot.toJson = .ok read) :
    read.CoveredBy subscription plan := by
  rw [decode_toJson] at decoded
  cases expiry : decodeExpiry (.int snapshot.expiresAt.unixSeconds) with
  | error complaint => rw [expiry] at decoded; cases decoded
  | ok moment =>
    rw [expiry] at decoded
    cases decoded
    have second := decodeExpiry_instant expiry
    -- the whole seconds of an instant come no later than the instant
    have truncated : moment ≤ snapshot.expiresAt := by
      rw [Moment.le_iff, second]
      exact Int.ediv_mul_le _ (by decide)
    exact ⟨covered.status, Int.le_trans truncated covered.expiresAt, covered.features⟩

end Snapshot

/-! ## The ledger's answers -/

/-- The ledger answers an access check from the records in memory: they are kept there, and no
fault is armed for the lookups the check makes (the company's subscription, a plan, a
feature). -/
structure LedgerAnswers (world : World) : Prop where
  inMemory : world.backend = .memory
  subscriptionLookup : ∀ fault ∈ world.faults, fault.method ≠ Call.getSubscriptionByCompany.name
  planLookup : ∀ fault ∈ world.faults, fault.method ≠ Call.getPlan.name
  featureLookup : ∀ fault ∈ world.faults, fault.method ≠ Call.getFeature.name

section Ledger

variable {world : World}

theorem liveSubscription_run (answers : LedgerAnswers world) (company : Uuid) :
    (liveSubscription company).run.run world =
      (.ok ((world.store.subscriptionOf? company).filter (·.grantsAccess world.clock)), world) := by
  simp only [liveSubscription, run_bind, run_now, Calls.getSubscriptionByCompany,
    guarded_run_of_unarmed answers.subscriptionLookup, Calls.backed_run answers.inMemory, Calls.readStore_run]
  rfl

theorem getPlan_run (answers : LedgerAnswers world) {id : String} {plan : Plan}
    (found : world.store.plan? id = some plan) : (Catalog.getPlan id).run.run world = (.ok plan, world) := by
  simp only [Catalog.getPlan, run_bind, Calls.getPlan, guarded_run_of_unarmed answers.planLookup,
    Calls.backed_run answers.inMemory, Calls.readStore_run, found]
  rfl

/-- A plan that includes a feature says so without looking the feature up. -/
theorem hasFeature_run_of_includes (answers : LedgerAnswers world) {id code : String} {plan : Plan}
    (found : world.store.plan? id = some plan) (includes : plan.includes code = true) :
    (Catalog.hasFeature id code).run.run world = (.ok true, world) := by
  simp only [Catalog.hasFeature, run_bind, getPlan_run answers found, includes]
  rfl

variable {company : Uuid} {subscription : Subscription} {plan : Plan} {snapshot : Snapshot}

/-- With a snapshot covered by the company's stored subscription, requiring a usable
subscription answers as the ledger alone does. -/
theorem requireActive_agrees (answers : LedgerAnswers world)
    (stored : world.store.subscriptionOf? company = some subscription) (covered : snapshot.CoveredBy subscription plan) :
    (requireActive company (some snapshot)).run.run world = (requireActive company none).run.run world := by
  rw [requireActive_run_some]
  split
  · rename_i allows
    have grants := covered.grants allows
    -- the ledger finds the subscription usable too
    simp only [requireActive, run_bind, liveSubscription_run answers, stored, Option.filter, grants]
    rfl
  · rfl

/-- With a snapshot covered by the company's stored subscription and its plan, requiring a
feature answers as the ledger alone does. -/
theorem requireFeature_agrees (answers : LedgerAnswers world)
    (stored : world.store.subscriptionOf? company = some subscription) (found : world.store.plan? subscription.plan = some plan)
    (covered : snapshot.CoveredBy subscription plan) (code : String) :
    (requireFeature company code (some snapshot)).run.run world = (requireFeature company code none).run.run world := by
  rw [requireFeature_run_some]
  split
  · rename_i allows
    obtain ⟨grants, includes⟩ := covered.includes allows
    -- the ledger finds the subscription usable and its plan with the feature
    simp only [requireFeature, run_bind, liveSubscription_run answers, stored, Option.filter, grants,
      ↓reduceIte, hasFeature_run_of_includes answers found includes]
    rfl
  · rfl

end Ledger

/-- The snapshot fast path agrees with the ledger. For every world, company and feature, a
snapshot never denies on its own: with any snapshot, requiring a usable subscription or a
feature fails only where the check without a snapshot fails, with the same failure and on the
same world. And where the ledger answers from the records in memory, the snapshot of the
company's stored subscription with its plan's feature codes, or that snapshot read back from
the document a token carries (its end of access cut to the whole second), makes both checks
answer exactly as the ledger alone does. -/
theorem snapshot_agrees_with_ledger (company : Uuid) (code : String) :
    (∀ snapshot world halt after, (requireActive company (some snapshot)).run.run world = (.error halt, after) →
        (requireActive company none).run.run world = (.error halt, after)) ∧
      (∀ snapshot world halt after, (requireFeature company code (some snapshot)).run.run world = (.error halt, after) →
        (requireFeature company code none).run.run world = (.error halt, after)) ∧
      ∀ world subscription plan snapshot, LedgerAnswers world →
        world.store.subscriptionOf? company = some subscription → world.store.plan? subscription.plan = some plan →
        (snapshot = Snapshot.ofSubscription subscription plan.featureCodes ∨
          Snapshot.decode (Snapshot.ofSubscription subscription plan.featureCodes).toJson = .ok snapshot) →
        (requireActive company (some snapshot)).run.run world = (requireActive company none).run.run world ∧
          (requireFeature company code (some snapshot)).run.run world = (requireFeature company code none).run.run world := by
  refine ⟨fun snapshot world halt after denied => ?_, fun snapshot world halt after denied => ?_,
    fun world subscription plan snapshot answers stored found taken => ?_⟩
  · rw [requireActive_run_some] at denied
    split at denied
    · cases denied
    · exact denied
  · rw [requireFeature_run_some] at denied
    split at denied
    · cases denied
    · exact denied
  · have covered : snapshot.CoveredBy subscription plan := by
      rcases taken with same | decoded
      · rw [same]
        exact Snapshot.ofSubscription_coveredBy subscription plan
      · exact (Snapshot.ofSubscription_coveredBy subscription plan).of_decode decoded
    exact ⟨requireActive_agrees answers stored covered, requireFeature_agrees answers stored found covered code⟩

/-- The January subscription's snapshot, read back from a token's document, checked for
attendance in the January world. -/
theorem january_snapshot_agrees_with_ledger :
    LedgerAnswers januaryWorld ∧ januaryWorld.store.subscriptionOf? Ledger.exampleCompany = some januarySubscription ∧
      januaryWorld.store.plan? januarySubscription.plan = some Ledger.basicPlan ∧
      Snapshot.decode (Snapshot.ofSubscription januarySubscription Ledger.basicPlan.featureCodes).toJson =
        .ok (Snapshot.ofSubscription januarySubscription Ledger.basicPlan.featureCodes) ∧
      (requireActive Ledger.exampleCompany (some (Snapshot.ofSubscription januarySubscription []))).run.run januaryWorld =
          (requireActive Ledger.exampleCompany none).run.run januaryWorld ∧
        (requireFeature Ledger.exampleCompany "attendance" (some (Snapshot.ofSubscription januarySubscription []))).run.run
            januaryWorld =
          (requireFeature Ledger.exampleCompany "attendance" none).run.run januaryWorld := by
  have answers : LedgerAnswers januaryWorld := ⟨rfl, nofun, nofun, nofun⟩
  have decoded : Snapshot.decode (Snapshot.ofSubscription januarySubscription Ledger.basicPlan.featureCodes).toJson =
      .ok (Snapshot.ofSubscription januarySubscription Ledger.basicPlan.featureCodes) := by decide
  exact ⟨answers, rfl, rfl, decoded, (snapshot_agrees_with_ledger Ledger.exampleCompany "attendance").2.2 januaryWorld
    januarySubscription Ledger.basicPlan _ answers rfl rfl (.inr decoded)⟩

end Access

end SeatBilling
