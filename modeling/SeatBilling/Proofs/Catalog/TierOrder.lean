import SeatBilling.Proofs.Access.FastPath

/-!
# The tier order

Plans are ranked by price, then by included seats, then by name: the lexicographic order of
three keys, each compared by its own lawful order. So the tier order is a total order up to those
keys: swapping two plans reverses it, it is transitive, and two plans tie only when they agree on
all three keys (`tierCmp_eq_eq_iff`).

In a catalog whose names are pairwise distinct no two plans tie. Sorting a listing of its active
plans then gives the one strictly increasing arrangement of them, whatever order the listing came
in (`sortByTier_eq_of_perm`), and every plan of another name than the current one lies strictly
above it or strictly below it, so a move to it passes the tier gate of exactly one of an upgrade
and a downgrade (`isHigherTierThan_or_lower`).
-/

namespace SeatBilling

namespace Plan

/-- The tier order is the lexicographic order of price, included seats and name. -/
theorem tierCmp_eq_compareLex :
    tierCmp = compareLex (compareOn price) (compareLex (compareOn maxSeatsIncluded) (compareOn name)) := rfl

instance : Std.TransCmp tierCmp :=
  inferInstanceAs (Std.TransCmp (compareLex (compareOn price) (compareLex (compareOn maxSeatsIncluded) (compareOn name))))

variable {plan other third : Plan}

/-- Swapping two plans reverses their order. -/
theorem tierCmp_swap (plan other : Plan) : plan.tierCmp other = (other.tierCmp plan).swap :=
  Std.OrientedCmp.eq_swap

/-- Each answer of the tier order is transitive. -/
theorem tierCmp_trans {order : Ordering} (first : plan.tierCmp other = order) (second : other.tierCmp third = order) :
    plan.tierCmp third = order := by
  cases order with
  | lt => exact Std.TransCmp.lt_trans first second
  | eq => exact Std.TransCmp.eq_trans first second
  | gt => exact Std.TransCmp.gt_trans first second

/-- Two plans tie only when they agree on price, included seats and name. -/
theorem tierCmp_eq_eq_iff :
    plan.tierCmp other = .eq ↔
      plan.price = other.price ∧ plan.maxSeatsIncluded = other.maxSeatsIncluded ∧ plan.name = other.name := by
  simp only [tierCmp, Ordering.then_eq_eq, Std.LawfulEqOrd.compare_eq_iff_eq]

theorem tierCmp_ne_eq_of_name_ne (named : plan.name ≠ other.name) : plan.tierCmp other ≠ .eq :=
  fun tied => named (tierCmp_eq_eq_iff.mp tied).2.2

/-- Of two plans of different names, one lies strictly below the other. -/
theorem tierCmp_lt_or_gt (named : plan.name ≠ other.name) :
    plan.tierCmp other = .lt ∨ plan.tierCmp other = .gt := by
  have untied := tierCmp_ne_eq_of_name_ne named
  cases order : plan.tierCmp other with
  | lt => exact .inl rfl
  | eq => exact absurd order untied
  | gt => exact .inr rfl

/-- A plan ranks above another exactly when the other ranks below it. -/
theorem isHigherTierThan_iff : plan.isHigherTierThan other = true ↔ other.tierCmp plan = .lt := by
  rw [isHigherTierThan, beq_iff_eq, tierCmp_swap, Ordering.swap_eq_gt]

/-- A plan of another name is strictly above the current one, which is the gate of an upgrade,
or strictly below it, which passes the gate of a downgrade; never both. -/
theorem isHigherTierThan_or_lower (named : plan.name ≠ other.name) :
    (plan.isHigherTierThan other = true ∧ other.tierCmp plan = .lt) ∨
      (plan.isHigherTierThan other = false ∧ plan.tierCmp other = .lt) := by
  rcases tierCmp_lt_or_gt named with below | above
  · refine .inr ⟨?_, below⟩
    rw [isHigherTierThan, below]
    rfl
  · refine .inl ⟨?_, ?_⟩
    · rw [isHigherTierThan, above]
      rfl
    · rw [tierCmp_swap, above]
      rfl

/-! ## Sorting by tier -/

theorem sortByTier_perm (plans : List Plan) : (sortByTier plans).Perm plans :=
  List.mergeSort_perm plans _

theorem sortByTier_pairwise (plans : List Plan) : (sortByTier plans).Pairwise fun plan other => plan.tierCmp other ≠ .gt := by
  have sorted := @List.pairwise_mergeSort Plan (fun plan other => plan.tierCmp other != .gt)
    (fun first second third firstSecond secondThird => ?_) (fun first second => ?_) plans
  · exact sorted.imp fun inOrder => by simpa using inOrder
  · simp only [bne_iff_ne, ne_eq] at firstSecond secondThird ⊢
    exact Std.TransCmp.isLE_trans (Ordering.isLE_iff_ne_gt.mpr firstSecond) (Ordering.isLE_iff_ne_gt.mpr secondThird)
      |> Ordering.isLE_iff_ne_gt.mp
  · rw [tierCmp_swap second first]
    cases first.tierCmp second <;> rfl

/-- A listing whose names are pairwise distinct, sorted by tier, rises strictly. -/
theorem sortByTier_strictly {plans : List Plan} (distinct : (plans.map name).Nodup) :
    (sortByTier plans).Pairwise fun plan other => plan.tierCmp other = .lt := by
  have names : (sortByTier plans).Pairwise fun plan other => plan.name ≠ other.name := by
    have sortedNames := ((sortByTier_perm plans).map name).nodup_iff.mpr distinct
    exact List.pairwise_map.mp sortedNames
  refine ((sortByTier_pairwise plans).and names).imp fun ⟨inOrder, named⟩ => ?_
  rcases tierCmp_lt_or_gt named with below | above
  · exact below
  · exact absurd above inOrder

/-- Sorting by tier does not depend on the order of the listing: a listing of plans with
pairwise distinct names has one strictly increasing arrangement. -/
theorem sortByTier_eq_of_perm {plans reordered : List Plan} (distinct : (plans.map name).Nodup)
    (same : reordered.Perm plans) : sortByTier reordered = sortByTier plans := by
  have reorderedDistinct : (reordered.map name).Nodup := (same.map name).nodup_iff.mpr distinct
  refine @List.Perm.eq_of_pairwise Plan (fun plan other => plan.tierCmp other = .lt) _ _ ?_
    (sortByTier_strictly reorderedDistinct) (sortByTier_strictly distinct)
    (((sortByTier_perm reordered).trans same).trans (sortByTier_perm plans).symm)
  intro first second _ _ below above
  rw [tierCmp_swap, below] at above
  cases above

/-- The listing of plans with pairwise distinct names is the arrangement of them that rises
strictly in tier. -/
theorem sortByTier_eq_of_rising {plans arranged : List Plan} (distinct : (plans.map name).Nodup)
    (same : arranged.Perm plans) (rising : arranged.Pairwise fun plan other => plan.tierCmp other = .lt) :
    sortByTier plans = arranged := by
  rw [← sortByTier_eq_of_perm distinct same]
  exact List.mergeSort_of_pairwise (rising.imp fun below => by simp [below])

end Plan

/-! ## Listing the active plans -/

/-- The store lists the plans it holds, the active ones only if asked, in some order. -/
theorem Store.listPlans_perm (store : Store) (activeOnly : Bool) :
    (store.listPlans activeOnly).Perm (store.plans.filter fun plan => !activeOnly || plan.active) :=
  Plan.sortByTier_perm _

theorem Calls.listPlans_run {world : World} (steady : Steady world) (activeOnly : Bool) :
    (Calls.listPlans activeOnly).run.run world = (.ok (world.store.listPlans activeOnly), world) := by
  rw [Calls.listPlans, Calls.guarded_run steady.noFaults, Calls.backed_run steady.inMemory, Calls.readStore_run]

/-- Listing the active plans sorts what the store hands over. -/
theorem Catalog.listActivePlans_run {world after : World} {handed : List Plan}
    (listed : (Calls.listPlans true).run.run world = (.ok handed, after)) :
    Catalog.listActivePlans.run.run world = (.ok (Plan.sortByTier handed), after) := by
  unfold Catalog.listActivePlans
  rw [run_bind, listed]
  rfl

/-- The tier order is a lawful total order on plans up to their price, included seats and name,
and it lists a catalog. For every catalog whose names are pairwise distinct, listing the active
plans gives each active plan once, no inactive plan, strictly rising in tier, and the same list
whatever order the store handed the plans over in. Between the current plan and any plan of
another name, the tier gates of an upgrade and of a downgrade let exactly one move through. -/
theorem tier_order_ranks_plans :
    (∀ plan other : Plan, plan.tierCmp other = (other.tierCmp plan).swap) ∧
      (∀ (plan other third : Plan) (order : Ordering),
        plan.tierCmp other = order → other.tierCmp third = order → plan.tierCmp third = order) ∧
      (∀ plan other : Plan, plan.tierCmp other = .eq ↔
        plan.price = other.price ∧ plan.maxSeatsIncluded = other.maxSeatsIncluded ∧ plan.name = other.name) ∧
      (∀ (catalog handed : List Plan) (world after : World), (catalog.map (·.name)).Nodup →
        (Calls.listPlans true).run.run world = (.ok handed, after) → handed.Perm (catalog.filter (·.active)) →
        Catalog.listActivePlans.run.run world = (.ok (Plan.sortByTier (catalog.filter (·.active))), after) ∧
          (∀ plan, plan ∈ Plan.sortByTier (catalog.filter (·.active)) ↔ plan ∈ catalog ∧ plan.active = true) ∧
          (Plan.sortByTier (catalog.filter (·.active))).Nodup ∧
          (Plan.sortByTier (catalog.filter (·.active))).Pairwise fun plan other => plan.tierCmp other = .lt) ∧
      ∀ target current : Plan, target.name ≠ current.name →
        (target.isHigherTierThan current = true ∧ current.tierCmp target = .lt) ∨
          (target.isHigherTierThan current = false ∧ target.tierCmp current = .lt) := by
  refine ⟨Plan.tierCmp_swap, fun _ _ _ _ => Plan.tierCmp_trans, fun _ _ => Plan.tierCmp_eq_eq_iff,
    fun catalog handed world after distinct listed reordered => ?_, fun _ _ => Plan.isHigherTierThan_or_lower⟩
  have activeDistinct : ((catalog.filter (·.active)).map (·.name)).Nodup :=
    distinct.sublist ((List.filter_sublist).map _)
  have rising := Plan.sortByTier_strictly activeDistinct
  refine ⟨?_, fun plan => ?_, ?_, rising⟩
  · rw [Catalog.listActivePlans_run listed, Plan.sortByTier_eq_of_perm activeDistinct reordered]
  · rw [(Plan.sortByTier_perm _).mem_iff, List.mem_filter]
  · -- a strictly rising list repeats no plan
    refine rising.imp fun {plan other} below same => ?_
    rw [same, Plan.tierCmp_eq_eq_iff.mpr ⟨rfl, rfl, rfl⟩] at below
    cases below

/-- Two plans of one price and one seat count, told apart by name. -/
def starterPlan : Plan := ⟨"starter", "starter", 25000, 1000, 10, true, []⟩
def teamPlan : Plan := ⟨"team", "team", 25000, 1000, 10, true, []⟩

/-- A catalog stored out of tier order, with a plan no longer on sale. -/
def tieredCatalog : List Plan :=
  [⟨"pro", "pro", 50000, 1000, 25, true, []⟩, teamPlan, ⟨"legacy", "legacy", 5000, 1000, 3, false, []⟩, starterPlan,
    Ledger.basicPlan]

/-- The quiet world of the examples, with `tieredCatalog` in its store. -/
def tieredWorld : World := { Ledger.quietStart with store := { Ledger.quietStart.store with plans := tieredCatalog } }

/-- The tiered catalog lists basic, starter, team and pro, and a move from starter to team is an
upgrade. -/
theorem tiered_catalog_lists_rising :
    (tieredCatalog.map (·.name)).Nodup ∧
      (Calls.listPlans true).run.run tieredWorld = (.ok (tieredWorld.store.listPlans true), tieredWorld) ∧
      (tieredWorld.store.listPlans true).Perm (tieredCatalog.filter (·.active)) ∧
      Catalog.listActivePlans.run.run tieredWorld =
        (.ok (Plan.sortByTier (tieredCatalog.filter (·.active))), tieredWorld) ∧
      Plan.sortByTier (tieredCatalog.filter (·.active)) =
        [Ledger.basicPlan, starterPlan, teamPlan, ⟨"pro", "pro", 50000, 1000, 25, true, []⟩] ∧
      teamPlan.name ≠ starterPlan.name ∧
      ((teamPlan.isHigherTierThan starterPlan = true ∧ starterPlan.tierCmp teamPlan = .lt) ∨
        (teamPlan.isHigherTierThan starterPlan = false ∧ teamPlan.tierCmp starterPlan = .lt)) := by
  have distinct : (tieredCatalog.map (·.name)).Nodup := by decide
  have steady : Steady tieredWorld := ⟨rfl, rfl⟩
  have listed := Calls.listPlans_run steady true
  have reordered := Store.listPlans_perm tieredWorld.store true
  have named : teamPlan.name ≠ starterPlan.name := by decide
  have sorted : Plan.sortByTier (tieredCatalog.filter (·.active)) =
      [Ledger.basicPlan, starterPlan, teamPlan, ⟨"pro", "pro", 50000, 1000, 25, true, []⟩] :=
    Plan.sortByTier_eq_of_rising (distinct.sublist ((List.filter_sublist).map _)) (by decide) (by decide)
  exact ⟨distinct, listed, reordered,
    ((tier_order_ranks_plans.2.2.2.1 tieredCatalog _ tieredWorld tieredWorld distinct listed reordered).1), sorted,
    named, tier_order_ranks_plans.2.2.2.2 teamPlan starterPlan named⟩

end SeatBilling
