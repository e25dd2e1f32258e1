import SeatBilling.Proofs.Access.FastPath
import SeatBilling.Proofs.Catalog.SeatPricing
import SeatBilling.Proofs.Services.CollaboratorFailures

/-!
# The access queries agree with the access checks

Each access decision is made twice: by a query that answers with a value (`accessOf`,
`hasFeature`, `canAddEmployee`) and by a check that passes or fails (`requireActive`,
`requireFeature`, `requireSeatAvailable`). Both read the company's subscription once and keep
it only when it grants access now (`liveSubscription`); the seat decisions then read the live
headcount once. The run of each is stated over the run of those shared lookups, so the query
and the check of a pair decide alike in every world, whatever the backend and the armed faults:
where a lookup fails, both fail with its halt on the same world. A refusal is told from a failed
lookup by its kind, since lookups fail only as collaborators do.

An unknown feature code is not found, by the query and by the check once it reaches the
catalog, where the catalog answers from memory and its plans list only registered features.
Seeding keeps every catalog so.
-/

namespace SeatBilling

/-- A collaborator's failure refuses no seat. -/
theorem Failure.OfCollaborator.not_refusal {failure : Failure} (collaborator : failure.OfCollaborator) :
    ¬ (failure = Access.inactive ∨ ∃ active seats, failure = .seatLimitExceeded active seats) := by
  rintro (rfl | ⟨active, seats, rfl⟩) <;> exact collaborator

/-! ## Registered features -/

namespace Store

/-- Every feature a plan lists is registered in the catalog under its code. -/
def FeaturesRegistered (store : Store) : Prop :=
  ∀ plan ∈ store.plans, ∀ feature ∈ plan.features, ∃ known ∈ store.features, known.code = feature.code

instance : DecidablePred FeaturesRegistered := fun store =>
  inferInstanceAs (Decidable (∀ plan ∈ store.plans, ∀ feature ∈ plan.features,
    ∃ known ∈ store.features, known.code = feature.code))

/-- Registering features one by one keeps those registered before. -/
theorem foldl_keeps {register : List Feature → Feature → List Feature}
    (grows : ∀ known feature, ∀ kept ∈ known, kept ∈ register known feature) :
    ∀ (features known : List Feature), ∀ kept ∈ known, kept ∈ features.foldl register known := by
  intro features
  induction features with
  | nil => exact fun _ _ member => member
  | cons feature rest inductionHypothesis =>
    exact fun known kept member => inductionHypothesis _ kept (grows known feature kept member)

/-- Registering features one by one, each under its code, registers them all. -/
theorem foldl_registers {register : List Feature → Feature → List Feature}
    (grows : ∀ known feature, ∀ kept ∈ known, kept ∈ register known feature)
    (registers : ∀ known feature, ∃ entry ∈ register known feature, entry.code = feature.code) :
    ∀ (features known : List Feature), ∀ feature ∈ features,
      ∃ entry ∈ features.foldl register known, entry.code = feature.code := by
  intro features
  induction features with
  | nil => exact fun _ _ absent => nomatch absent
  | cons first rest inductionHypothesis =>
    intro known feature member
    rcases List.mem_cons.mp member with isFirst | inRest
    · -- the first feature is registered at once, and kept by the rest
      obtain ⟨entry, registered, sameCode⟩ := registers known first
      exact ⟨entry, foldl_keeps grows rest _ entry registered, isFirst ▸ sameCode⟩
    · exact inductionHypothesis _ feature inRest

theorem featuresRegistered_empty : empty.FeaturesRegistered := nofun

/-- Seeding a feature keeps every code registered. -/
theorem FeaturesRegistered.seedFeature {store : Store} (registered : store.FeaturesRegistered) (feature : Feature) :
    (store.seedFeature feature).FeaturesRegistered := by
  intro plan inPlans listed inPlan
  obtain ⟨known, inKnown, sameCode⟩ := registered plan inPlans listed inPlan
  unfold Store.seedFeature upsert
  dsimp only
  split
  · by_cases replaced : feature.code = known.code
    · exact ⟨feature, List.mem_map.mpr ⟨known, inKnown, by simp [replaced]⟩, replaced.trans sameCode⟩
    · exact ⟨known, List.mem_map.mpr ⟨known, inKnown, by simp [replaced]⟩, sameCode⟩
  · exact ⟨known, List.mem_append_left _ inKnown, sameCode⟩

/-- Seeding a plan registers its features. -/
theorem FeaturesRegistered.seedPlan {store : Store} (registered : store.FeaturesRegistered) (plan : Plan) :
    (store.seedPlan plan).FeaturesRegistered := by
  have grows : ∀ (known : List Feature) (feature : Feature), ∀ kept ∈ known,
      kept ∈ (if known.any (·.code == feature.code) then known else known ++ [feature]) := by
    intro known feature kept member
    split
    · exact member
    · exact List.mem_append_left _ member
  have registers : ∀ (known : List Feature) (feature : Feature),
      ∃ entry ∈ (if known.any (·.code == feature.code) then known else known ++ [feature]),
        entry.code = feature.code := by
    intro known feature
    split
    · rename_i present
      obtain ⟨entry, member, sameCode⟩ := List.any_eq_true.mp present
      exact ⟨entry, member, beq_iff_eq.mp sameCode⟩
    · exact ⟨feature, List.mem_append_right _ List.mem_cons_self, rfl⟩
  intro listing inPlans listed inListing
  rcases mem_upsert (show listing ∈ upsert (fun new old => new.id == old.id) plan store.plans from inPlans) with
      rfl | stored
  · exact foldl_registers grows registers _ store.features listed inListing
  · obtain ⟨known, inKnown, sameCode⟩ := registered listing stored listed inListing
    exact ⟨known, foldl_keeps grows _ store.features known inKnown, sameCode⟩

/-- A plan of a catalog whose plans list only registered features does not include an unknown
code. -/
theorem FeaturesRegistered.includes_eq_false {store : Store} (registered : store.FeaturesRegistered) {code : String}
    (unknown : store.feature? code = none) {plan : Plan} (stored : plan ∈ store.plans) : plan.includes code = false := by
  unfold Plan.includes
  rw [List.any_eq_false]
  intro listed inPlan named
  obtain ⟨known, inKnown, sameCode⟩ := registered plan stored listed inPlan
  have unnamed := List.find?_eq_none.mp unknown known inKnown
  simp_all

end Store

namespace Access

variable (company : Uuid)

section Lookups

variable (world : World)

/-- The company's subscription as the store gives it, kept when it grants access now. -/
theorem liveSubscription_run_lookup :
    (liveSubscription company).run.run world =
      match (Calls.getSubscriptionByCompany company).run.run world with
      | (.ok found, after) => (.ok (found.filter (·.grantsAccess world.clock)), after)
      | (.error halt, after) => (.error halt, after) := by
  simp only [liveSubscription, run_bind, run_now]
  rcases (Calls.getSubscriptionByCompany company).run.run world with ⟨halt | found, after⟩ <;> rfl

theorem liveSubscription_fails : FailsAsCollaborator (liveSubscription company) :=
  .bind .now fun _ => .bind (Calls.getSubscriptionByCompany_fails company) fun _ => .pure _

/-- Requiring a usable subscription is asking for the company's access and refusing it when it
is not allowed. -/
theorem requireActive_none_run :
    (requireActive company none).run.run world =
      match (accessOf company).run.run world with
      | (.ok decision, after) => if decision.allowed then (.ok (), after) else (.error (.failed inactive), after)
      | (.error halt, after) => (.error halt, after) := by
  simp only [requireActive, accessOf, liveSubscription, run_bind, run_now]
  rcases (Calls.getSubscriptionByCompany company).run.run world with ⟨halt | found, after⟩
  · rfl
  · cases found with
    | none => rfl
    | some subscription =>
      cases grants : subscription.grantsAccess world.clock <;> simp only [Option.filter, grants, Bool.false_eq_true, ↓reduceIte] <;> rfl

/-- Asking whether the plan includes a feature: the plan of a usable subscription answers, and
without one the code is only checked to be known. -/
theorem hasFeature_run_lookup (code : String) :
    (hasFeature company code).run.run world =
      match (liveSubscription company).run.run world with
      | (.ok (some subscription), after) => (Catalog.hasFeature subscription.plan code).run.run after
      | (.ok none, after) =>
        match (Catalog.ensureFeature code).run.run after with
        | (.ok _, settled) => (.ok false, settled)
        | (.error halt, settled) => (.error halt, settled)
      | (.error halt, after) => (.error halt, after) := by
  simp only [hasFeature, run_bind]
  rcases (liveSubscription company).run.run world with ⟨halt | (_ | subscription), after⟩
  · rfl
  · simp only [run_bind]
    rcases (Catalog.ensureFeature code).run.run after with ⟨_ | _, settled⟩ <;> rfl
  · rfl

theorem requireFeature_none_run (code : String) :
    (requireFeature company code none).run.run world =
      match (liveSubscription company).run.run world with
      | (.ok (some subscription), after) =>
        match (Catalog.hasFeature subscription.plan code).run.run after with
        | (.ok included, settled) =>
          if included then (.ok (), settled) else (.error (.failed (.featureNotIncluded code)), settled)
        | (.error halt, settled) => (.error halt, settled)
      | (.ok none, after) => (.error (.failed inactive), after)
      | (.error halt, after) => (.error halt, after) := by
  simp only [requireFeature, run_bind]
  rcases (liveSubscription company).run.run world with ⟨halt | (_ | subscription), after⟩
  · rfl
  · rfl
  · simp only [run_bind]
    rcases (Catalog.hasFeature subscription.plan code).run.run after with ⟨halt | included, settled⟩
    · rfl
    · cases included <;> rfl

theorem canAddEmployee_run_lookup :
    (canAddEmployee company).run.run world =
      match (liveSubscription company).run.run world with
      | (.ok (some subscription), after) =>
        match (Calls.countActive company).run.run after with
        | (.ok active, counted) => (.ok (decide (active < subscription.maxSeats)), counted)
        | (.error halt, counted) => (.error halt, counted)
      | (.ok none, after) => (.ok false, after)
      | (.error halt, after) => (.error halt, after) := by
  simp only [canAddEmployee, run_bind]
  rcases (liveSubscription company).run.run world with ⟨halt | (_ | subscription), after⟩
  · rfl
  · rfl
  · simp only [run_bind]
    rcases (Calls.countActive company).run.run after with ⟨halt | active, counted⟩ <;> rfl

theorem requireSeatAvailable_run_lookup :
    (requireSeatAvailable company).run.run world =
      match (liveSubscription company).run.run world with
      | (.ok (some subscription), after) =>
        match (Calls.countActive company).run.run after with
        | (.ok active, counted) =>
          if active ≥ subscription.maxSeats then
            (.error (.failed (.seatLimitExceeded active subscription.maxSeats)), counted)
          else (.ok (), counted)
        | (.error halt, counted) => (.error halt, counted)
      | (.ok none, after) => (.error (.failed inactive), after)
      | (.error halt, after) => (.error halt, after) := by
  simp only [requireSeatAvailable, run_bind]
  rcases (liveSubscription company).run.run world with ⟨halt | (_ | subscription), after⟩
  · rfl
  · rfl
  · simp only [run_bind]
    rcases (Calls.countActive company).run.run after with ⟨halt | active, counted⟩
    · rfl
    · by_cases full : active ≥ subscription.maxSeats <;> simp only [full, ↓reduceIte] <;> rfl

/-- A usable subscription's plan includes the feature exactly when the query says so and the
check passes. -/
theorem hasFeature_true_iff (code : String) {after : World} :
    (hasFeature company code).run.run world = (.ok true, after) ↔
      (requireFeature company code none).run.run world = (.ok (), after) := by
  rw [hasFeature_run_lookup, requireFeature_none_run]
  rcases (liveSubscription company).run.run world with ⟨halt | (_ | subscription), middle⟩
  · exact ⟨nofun, nofun⟩
  · -- without a usable subscription the query says no and the check refuses
    dsimp only
    rcases (Catalog.ensureFeature code).run.run middle with ⟨_ | _, settled⟩ <;> exact ⟨nofun, nofun⟩
  · dsimp only
    rcases (Catalog.hasFeature subscription.plan code).run.run middle with ⟨halt | included, settled⟩
    · exact ⟨nofun, nofun⟩
    · cases included
      · exact ⟨nofun, nofun⟩
      · exact ⟨fun same => by cases same; rfl, fun same => by cases same; rfl⟩

theorem canAddEmployee_true_iff {after : World} :
    (canAddEmployee company).run.run world = (.ok true, after) ↔
      (requireSeatAvailable company).run.run world = (.ok (), after) := by
  rw [canAddEmployee_run_lookup, requireSeatAvailable_run_lookup]
  rcases (liveSubscription company).run.run world with ⟨halt | (_ | subscription), middle⟩
  · exact ⟨nofun, nofun⟩
  · exact ⟨nofun, nofun⟩
  · dsimp only
    rcases (Calls.countActive company).run.run middle with ⟨halt | active, counted⟩
    · exact ⟨nofun, nofun⟩
    · by_cases full : active ≥ subscription.maxSeats
      · have refused : decide (active < subscription.maxSeats) = false := decide_eq_false (by omega)
        simp only [full, ↓reduceIte, refused]
        exact ⟨nofun, nofun⟩
      · have allowed : decide (active < subscription.maxSeats) = true := decide_eq_true (by omega)
        simp only [full, ↓reduceIte, allowed]
        exact ⟨fun same => by cases same; rfl, fun same => by cases same; rfl⟩

/-- The query says no exactly when the check refuses a seat: for want of a usable subscription,
or because the seats are taken. A failed lookup is a collaborator's failure, no refusal. -/
theorem canAddEmployee_false_iff {after : World} :
    (canAddEmployee company).run.run world = (.ok false, after) ↔
      ∃ failure, (requireSeatAvailable company).run.run world = (.error (.failed failure), after) ∧
        (failure = inactive ∨ ∃ active seats, failure = .seatLimitExceeded active seats) := by
  rw [canAddEmployee_run_lookup, requireSeatAvailable_run_lookup]
  rcases live : (liveSubscription company).run.run world with ⟨halt | (_ | subscription), middle⟩
  · refine ⟨nofun, ?_⟩
    rintro ⟨failure, failed, refusal⟩
    cases failed
    exact absurd refusal (liveSubscription_fails company world failure _ live).not_refusal
  · exact ⟨fun same => by cases same; exact ⟨inactive, rfl, .inl rfl⟩,
      fun ⟨_, failed, _⟩ => by cases failed; rfl⟩
  · dsimp only
    rcases counted : (Calls.countActive company).run.run middle with ⟨halt | active, counted⟩
    · refine ⟨nofun, ?_⟩
      rintro ⟨failure, failed, refusal⟩
      cases failed
      exact absurd refusal (Calls.countActive_fails company middle failure _ counted).not_refusal
    · by_cases full : active ≥ subscription.maxSeats
      · have refused : decide (active < subscription.maxSeats) = false := decide_eq_false (by omega)
        simp only [full, ↓reduceIte, refused]
        exact ⟨fun same => by cases same; exact ⟨_, rfl, .inr ⟨_, _, rfl⟩⟩,
          fun ⟨_, failed, _⟩ => by cases failed; rfl⟩
      · have allowed : decide (active < subscription.maxSeats) = true := decide_eq_true (by omega)
        simp only [full, ↓reduceIte, allowed]
        exact ⟨nofun, fun ⟨_, failed, _⟩ => nomatch failed⟩

end Lookups

/-! ## Unknown features -/

section Unknown

variable {world : World} (answers : LedgerAnswers world) {code : String}
include answers

theorem ensureFeature_run_unknown (unknown : world.store.feature? code = none) :
    (Catalog.ensureFeature code).run.run world =
      (.error (.failed (.notFound ("Feature '" ++ code ++ "' not found"))), world) := by
  simp only [Catalog.ensureFeature, run_bind, Calls.getFeature, guarded_run_of_unarmed answers.featureLookup,
    Calls.backed_run answers.inMemory, Calls.readStore_run, unknown]
  rfl

theorem getPlan_run_missing {id : String} (missing : world.store.plan? id = none) :
    (Catalog.getPlan id).run.run world = (.error (.failed (.notFound ("Plan '" ++ id ++ "' not found"))), world) := by
  simp only [Catalog.getPlan, run_bind, Calls.getPlan, guarded_run_of_unarmed answers.planLookup,
    Calls.backed_run answers.inMemory, Calls.readStore_run, missing]
  rfl

/-- In a catalog whose plans list only registered features, an unknown code is not found,
whatever the plan. -/
theorem catalogHasFeature_run_unknown (registered : world.store.FeaturesRegistered)
    (unknown : world.store.feature? code = none) (id : String) :
    ∃ what, (Catalog.hasFeature id code).run.run world = (.error (.failed (.notFound what)), world) := by
  cases found : world.store.plan? id with
  | none =>
    refine ⟨"Plan '" ++ id ++ "' not found", ?_⟩
    simp only [Catalog.hasFeature, run_bind, getPlan_run_missing answers found]
  | some plan =>
    have excluded := registered.includes_eq_false unknown (List.mem_of_find?_eq_some found)
    refine ⟨"Feature '" ++ code ++ "' not found", ?_⟩
    simp only [Catalog.hasFeature, run_bind, getPlan_run answers found, excluded, Bool.false_eq_true, ↓reduceIte,
      ensureFeature_run_unknown answers unknown]

/-- The query finds an unknown code not found, with or without a usable subscription; and
once the check reaches the catalog, with a usable subscription, it fails in the same way. -/
theorem hasFeature_unknown (registered : world.store.FeaturesRegistered) (unknown : world.store.feature? code = none) :
    ∃ what, (hasFeature company code).run.run world = (.error (.failed (.notFound what)), world) ∧
      ∀ subscription, (world.store.subscriptionOf? company).filter (·.grantsAccess world.clock) = some subscription →
        (requireFeature company code none).run.run world = (.error (.failed (.notFound what)), world) := by
  rw [hasFeature_run_lookup, requireFeature_none_run, liveSubscription_run answers]
  cases live : (world.store.subscriptionOf? company).filter (·.grantsAccess world.clock) with
  | some subscription =>
    obtain ⟨what, failed⟩ := catalogHasFeature_run_unknown answers registered unknown subscription.plan
    refine ⟨what, failed, fun _ same => ?_⟩
    simp only [failed]
  | none =>
    refine ⟨"Feature '" ++ code ++ "' not found", ?_, fun _ same => nomatch same⟩
    simp only [ensureFeature_run_unknown answers unknown]

end Unknown

/-! ## On the records in memory -/

section Steady

variable {world : World} (steady : Steady world)
include steady

theorem ledgerAnswers_of_steady : LedgerAnswers world :=
  ⟨steady.inMemory, by simp [steady.noFaults], by simp [steady.noFaults], by simp [steady.noFaults]⟩

/-- On the records in memory, the company's access is allowed exactly when its stored
subscription grants access now. -/
theorem accessOf_allowed_steady :
    ∃ decision, (accessOf company).run.run world = (.ok decision, world) ∧
      decision.allowed = (world.store.subscriptionOf? company).any (·.grantsAccess world.clock) := by
  simp only [accessOf, run_bind, run_now, Calls.getSubscriptionByCompany_run steady]
  cases world.store.subscriptionOf? company with
  | none => exact ⟨_, rfl, rfl⟩
  | some subscription => exact ⟨_, rfl, rfl⟩

/-- On the records in memory, a company may add an employee exactly when its stored
subscription grants access now and has more seats than the directory counts active employees. -/
theorem canAddEmployee_run_steady :
    (canAddEmployee company).run.run world =
      (.ok (((world.store.subscriptionOf? company).filter (·.grantsAccess world.clock)).any
        fun subscription => decide (activeEmployees world.headcount company < subscription.maxSeats)), world) := by
  rw [canAddEmployee_run_lookup, liveSubscription_run (ledgerAnswers_of_steady steady)]
  cases (world.store.subscriptionOf? company).filter (·.grantsAccess world.clock) with
  | none => rfl
  | some subscription =>
    simp only [Calls.countActive_run steady]
    rfl

end Steady

end Access

open Access in
/-- The access queries agree with the access checks. For every world (any backend, any armed
faults, any clock), company and feature code, with no snapshot:

* requiring a usable subscription passes exactly when the company's access is allowed, and
  fails as asking for it does otherwise;
* the feature query says yes exactly when requiring the feature passes;
* the seat query says yes exactly when requiring a free seat passes, and no exactly when that
  check refuses for want of a usable subscription or because the seats are taken;
* where the catalog answers from memory and its plans list only registered features, an
  unknown code is not found by the query, and by the check too once it reaches the catalog;
* on the records in memory, access is allowed by the stored subscription granting access now,
  and a seat is free when that subscription has more seats than active employees. -/
theorem access_queries_agree_with_checks (company : Uuid) (code : String) :
    (∀ world, (requireActive company none).run.run world =
        match (accessOf company).run.run world with
        | (.ok decision, after) => if decision.allowed then (.ok (), after) else (.error (.failed inactive), after)
        | (.error halt, after) => (.error halt, after)) ∧
      (∀ world after, (hasFeature company code).run.run world = (.ok true, after) ↔
        (requireFeature company code none).run.run world = (.ok (), after)) ∧
      (∀ world after, (canAddEmployee company).run.run world = (.ok true, after) ↔
        (requireSeatAvailable company).run.run world = (.ok (), after)) ∧
      (∀ world after, (canAddEmployee company).run.run world = (.ok false, after) ↔
        ∃ failure, (requireSeatAvailable company).run.run world = (.error (.failed failure), after) ∧
          (failure = inactive ∨ ∃ active seats, failure = .seatLimitExceeded active seats)) ∧
      (∀ world, LedgerAnswers world → world.store.FeaturesRegistered → world.store.feature? code = none →
        ∃ what, (hasFeature company code).run.run world = (.error (.failed (.notFound what)), world) ∧
          ∀ subscription, (world.store.subscriptionOf? company).filter (·.grantsAccess world.clock) = some subscription →
            (requireFeature company code none).run.run world = (.error (.failed (.notFound what)), world)) ∧
      ∀ world, Steady world →
        (∃ decision, (accessOf company).run.run world = (.ok decision, world) ∧
          decision.allowed = (world.store.subscriptionOf? company).any (·.grantsAccess world.clock)) ∧
        (canAddEmployee company).run.run world =
          (.ok (((world.store.subscriptionOf? company).filter (·.grantsAccess world.clock)).any
            fun subscription => decide (activeEmployees world.headcount company < subscription.maxSeats)), world) :=
  ⟨requireActive_none_run company, fun world _ => hasFeature_true_iff company world code,
    fun world _ => canAddEmployee_true_iff company world, fun world _ => canAddEmployee_false_iff company world,
    fun _ answers registered unknown => hasFeature_unknown company answers registered unknown,
    fun _ steady => ⟨accessOf_allowed_steady company steady, canAddEmployee_run_steady company steady⟩⟩

/-- In the January world the basic plan lists no feature, so an unknown code is not found by
the feature query and by the check, and the company, with no active employee, may add one. -/
theorem january_queries_agree_with_checks :
    Steady januaryWorld ∧ januaryWorld.store.FeaturesRegistered ∧ januaryWorld.store.feature? "payroll" = none ∧
      (∃ what, (Access.hasFeature Ledger.exampleCompany "payroll").run.run januaryWorld =
          (.error (.failed (.notFound what)), januaryWorld) ∧
        (Access.requireFeature Ledger.exampleCompany "payroll" none).run.run januaryWorld =
          (.error (.failed (.notFound what)), januaryWorld)) ∧
      (Access.canAddEmployee Ledger.exampleCompany).run.run januaryWorld = (.ok true, januaryWorld) := by
  have steady : Steady januaryWorld := ⟨rfl, rfl⟩
  -- the January catalog is the basic plan seeded into an empty store
  have registered : januaryWorld.store.FeaturesRegistered := Store.featuresRegistered_empty.seedPlan Ledger.basicPlan
  have agree := access_queries_agree_with_checks Ledger.exampleCompany "payroll"
  obtain ⟨what, queried, checked⟩ := agree.2.2.2.2.1 januaryWorld (Access.ledgerAnswers_of_steady steady) registered rfl
  refine ⟨steady, registered, rfl, ⟨what, queried, checked januarySubscription rfl⟩, ?_⟩
  rw [(agree.2.2.2.2.2 januaryWorld steady).2]
  rfl

end SeatBilling
