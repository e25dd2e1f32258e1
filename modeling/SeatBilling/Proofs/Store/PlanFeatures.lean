import Mathlib.Data.List.Forall2
import Std.Data.HashMap.Lemmas
import SeatBilling.Proofs.Store.Settlement

/-!
# Plans take exactly the features listed under their ids

The store reads plans in two statements: the plan rows, then the feature rows listed under any of
their ids. `withFeatures` reads every feature row as a `Listing` (the plan id it is listed under
and the feature), fills a map row by row with the features under each id (`getD_fillGroups`,
by induction over the rows), and hands the plans their lists in order, taking each list out of
the map (`takeFeatures_of_nodup`). For plans of distinct ids and whatever feature rows the
database answers with:

- the plans come back one for one and in order, each with its own fields and with the features
  listed under its id, in the order of their rows (`withFeatures_run`);
- every listing under one of the plans' ids lands in exactly one plan, and listings under other
  ids are dropped (`withListings_flatMap_perm`);
- a plan with no listing gets no feature (`listedFeatures_eq_nil_iff`).

Listing the plans and looking one up read their plan rows and then fill them the same way
(`listPlans_run`, `getPlan_run`).
-/

namespace SeatBilling.SqlStore

open SeatBilling.Database

/-! ## Listings and the plans they fill -/

/-- A feature listing: the id of the plan a feature row lists its feature under, and the
feature. -/
abbrev Listing := String × Feature

/-- The features listed under plan `id`, in the order of their rows. -/
def listedFeatures (listings : List Listing) (id : String) : List Feature :=
  (listings.filter (·.1 == id)).map Prod.snd

/-- The plan with the features listed under its id in place of its own. -/
def withListings (listings : List Listing) (plan : Plan) : Plan :=
  { plan with features := listedFeatures listings plan.id }

@[simp] theorem withListings_id (listings : List Listing) (plan : Plan) :
    (withListings listings plan).id = plan.id := rfl

@[simp] theorem withListings_features (listings : List Listing) (plan : Plan) :
    (withListings listings plan).features = listedFeatures listings plan.id := rfl

/-- A plan gets no feature exactly when no listing is under its id. -/
@[simp] theorem listedFeatures_eq_nil_iff (listings : List Listing) (id : String) :
    listedFeatures listings id = [] ↔ ∀ listing ∈ listings, listing.1 ≠ id := by
  simp [listedFeatures, List.filter_eq_nil_iff]

/-- The features of a plan, each paired with the plan's id, are the listings under that id. -/
theorem withListings_pairs (listings : List Listing) (plan : Plan) :
    (withListings listings plan).features.map (plan.id, ·) = listings.filter (·.1 == plan.id) := by
  simp only [withListings, listedFeatures, List.map_map]
  refine (List.map_congr_left fun listing member => ?_).trans (List.map_id _)
  simp only [List.mem_filter, beq_iff_eq] at member
  show (plan.id, listing.2) = listing
  rw [← member.2]

/-- The listings under `id`, then those under `ids`, are those under `id :: ids` when `id` is
not among `ids`. -/
theorem filter_key_append_perm (listings : List Listing) {id : String} {ids : List String} (fresh : id ∉ ids) :
    (listings.filter (·.1 == id) ++ listings.filter (·.1 ∈ ids)).Perm (listings.filter (·.1 ∈ id :: ids)) := by
  -- split the listings under `id :: ids` into those under `id` and the others
  have split := List.filter_append_perm (·.1 == id) (listings.filter (·.1 ∈ id :: ids))
  rw [List.filter_filter, List.filter_filter] at split
  have keyed : ∀ listing : Listing,
      ((listing.1 == id) && decide (listing.1 ∈ id :: ids)) = (listing.1 == id) := by
    intro listing
    by_cases same : listing.1 = id <;> simp [same]
  have others : ∀ listing : Listing,
      (!(listing.1 == id) && decide (listing.1 ∈ id :: ids)) = decide (listing.1 ∈ ids) := by
    intro listing
    by_cases same : listing.1 = id
    · simp [same, fresh]
    · simp [same]
  rw [List.filter_congr fun listing _ => keyed listing, List.filter_congr fun listing _ => others listing] at split
  exact split

/-- Filling plans of distinct ids loses no listing under their ids and keeps none under another:
the features they take, each paired with its plan's id, are a reordering of the listings under
the plans' ids. -/
theorem withListings_flatMap_perm (listings : List Listing) {plans : List Plan}
    (distinct : (plans.map (·.id)).Nodup) :
    ((plans.map (withListings listings)).flatMap fun plan => plan.features.map (plan.id, ·)).Perm
      (listings.filter (·.1 ∈ plans.map (·.id))) := by
  induction plans with
  | nil => simp
  | cons plan rest ih =>
    rw [List.map_cons, List.nodup_cons] at distinct
    obtain ⟨notLater, restDistinct⟩ := distinct
    rw [List.map_cons, List.flatMap_cons, withListings_id, withListings_pairs, List.map_cons]
    exact ((ih restDistinct).append_left _).trans (filter_key_append_perm listings notLater)

/-! ## The fill and the drain -/

theorem listedFeatures_cons (plan id : String) (feature : Feature) (listings : List Listing) :
    listedFeatures ((plan, feature) :: listings) id =
      if plan = id then feature :: listedFeatures listings id else listedFeatures listings id := by
  by_cases same : plan = id <;> simp [listedFeatures, same]

/-- The grouping invariant: filling the map row by row appends to the list kept under each id
the features listed under it, in the order of their rows. -/
theorem getD_fillGroups (groups : Std.HashMap String (List Feature)) (listings : List Listing) (id : String) :
    (fillGroups groups listings).getD id [] = groups.getD id [] ++ listedFeatures listings id := by
  -- induction on the feature rows, for every map filled by the rows before them
  induction listings generalizing groups with
  | nil => simp [fillGroups, listedFeatures]
  | cons listing rest ih =>
    obtain ⟨plan, feature⟩ := listing
    rw [fillGroups, ih, Std.HashMap.getD_insert, listedFeatures_cons]
    by_cases same : plan = id
    · subst same
      simp
    · simp [same]

/-- Filled from the empty map, the list under each id is the features listed under it. -/
theorem getD_fillGroups_empty (listings : List Listing) (id : String) :
    (fillGroups ∅ listings).getD id [] = listedFeatures listings id := by
  rw [getD_fillGroups, Std.HashMap.getD_empty, List.nil_append]

/-- Plans of distinct ids each take the list kept under their own id: taking one plan's list
out of the map leaves the lists of the plans after it. -/
theorem takeFeatures_of_nodup (groups : Std.HashMap String (List Feature)) {plans : List Plan}
    (distinct : (plans.map (·.id)).Nodup) :
    takeFeatures groups plans = plans.map fun plan => { plan with features := groups.getD plan.id [] } := by
  induction plans generalizing groups with
  | nil => rfl
  | cons plan rest ih =>
    rw [List.map_cons, List.nodup_cons] at distinct
    obtain ⟨notLater, restDistinct⟩ := distinct
    rw [takeFeatures, ih _ restDistinct, List.map_cons]
    refine congrArg _ (List.map_congr_left fun other member => ?_)
    have differs : plan.id ≠ other.id := fun same => notLater (same ▸ List.mem_map_of_mem member)
    simp [Std.HashMap.getD_erase, differs]

/-- Plans of distinct ids, handed out the map filled with `listings`, take their listings. -/
theorem takeFeatures_fillGroups (listings : List Listing) {plans : List Plan} (distinct : (plans.map (·.id)).Nodup) :
    takeFeatures (fillGroups ∅ listings) plans = plans.map (withListings listings) := by
  rw [takeFeatures_of_nodup _ distinct]
  exact List.map_congr_left fun plan _ => by rw [getD_fillGroups_empty]; rfl

/-! ## Reading rows -/

/-- How `withFeatures` reads a feature row. -/
def featureListing (row : Row) : StoreM Listing := do
  let plan ← text row "plan_id"
  let code ← text row "code"
  let name ← text row "name"
  return (plan, (⟨code, name⟩ : Feature))

theorem withFeatures_eq (plans : List Plan) :
    withFeatures plans =
      if plans.isEmpty then pure []
      else (do
        let rows ← exchange (fetchAll planFeaturesSql)
        let listings ← rows.mapM featureListing
        pure (takeFeatures (fillGroups ∅ listings) plans)) := rfl

/-- A feature row that reads as `listing`: its `plan_id`, `code` and `name` fields are the
listing's texts. -/
structure ListsFeature (row : Row) (listing : Listing) : Prop where
  plan : row.required (.named "plan_id") .text Value.text? = .ok listing.1
  code : row.required (.named "code") .text Value.text? = .ok listing.2.code
  name : row.required (.named "name") .text Value.text? = .ok listing.2.name

/-- A plan row that reads as `plan`, a plan without features: each of its fields is the plan's. -/
structure ListsPlan (row : Row) (plan : Plan) : Prop where
  id : row.required (.named "id") .text Value.text? = .ok plan.id
  name : row.required (.named "name") .text Value.text? = .ok plan.name
  price : row.required (.named "price") .int8 Value.int8? = .ok plan.price
  extraSeat : row.required (.named "price_per_extra_seat") .int8 Value.int8? = .ok plan.pricePerExtraSeat
  seats : row.required (.named "max_seats_included") .int4 Value.int4? = .ok plan.maxSeatsIncluded
  active : row.required (.named "active") .bool Value.bool? = .ok plan.active
  bare : plan.features = []

theorem featureListing_run {row : Row} {listing : Listing} (reads : ListsFeature row listing) (link : Link) :
    (featureListing row).run.run link = (.ok listing, link) := by
  simp only [featureListing, run_bind, text, field_run, reads.plan, reads.code, reads.name]
  rfl

theorem planOf_run {row : Row} {plan : Plan} (reads : ListsPlan row plan) (link : Link) :
    (planOf row).run.run link = (.ok plan, link) := by
  simp only [planOf, run_bind, text, field_run, reads.id, reads.name, reads.price, reads.extraSeat, reads.seats,
    reads.active]
  rw [← reads.bare]
  rfl

/-- Reading every item with a step that gives its value and leaves the session alone. -/
theorem mapM_run_of_forall₂ {α β : Type} {step : α → StoreM β} {items : List α} {values : List β}
    (each : List.Forall₂ (fun item value => ∀ link, (step item).run.run link = (.ok value, link)) items values)
    (link : Link) : (items.mapM step).run.run link = (.ok values, link) := by
  induction each with
  | nil => rfl
  | cons first _ ih => simp only [List.mapM_cons, run_bind, first link, ih, pure_run]

/-! ## Filling plans -/

section Filling

variable {link after : Link} {rows : List Row} {listings : List Listing}

/-- Plans of distinct ids take the features listed under their ids, once the database answers
the feature statement with rows that read as `listings`; no plans send no statement. -/
theorem withFeatures_run {plans : List Plan} (distinct : (plans.map (·.id)).Nodup)
    (fetched : (fetchAll planFeaturesSql).run.run link = (.ok rows, after))
    (reading : List.Forall₂ ListsFeature rows listings) :
    (withFeatures plans).run.run link =
      (.ok (plans.map (withListings listings)), if plans = [] then link else after) := by
  rcases plans with _ | ⟨plan, rest⟩
  · rfl
  · have listed := mapM_run_of_forall₂ (reading.imp fun _ _ reads => featureListing_run reads) after
    rw [withFeatures_eq]
    simp only [List.isEmpty_cons, Bool.false_eq_true, ↓reduceIte, run_bind, exchange_run, fetched, listed,
      takeFeatures_fillGroups listings distinct, pure_run, reduceCtorEq]

/-- Plans of distinct ids take exactly the features listed under their ids. Whatever feature rows
the database answers with, read as `listings`: the plans come back one for one and in order,
each with its own fields and the features listed under its id in the order of their rows; each
listing under one of their ids lands in exactly one plan and the others are dropped; and a plan
with no listing gets no feature. -/
theorem plans_take_their_listed_features (plans : List Plan) (distinct : (plans.map (·.id)).Nodup)
    (fetched : (fetchAll planFeaturesSql).run.run link = (.ok rows, after))
    (reading : List.Forall₂ ListsFeature rows listings) :
    (withFeatures plans).run.run link =
        (.ok (plans.map (withListings listings)), if plans = [] then link else after) ∧
      ((plans.map (withListings listings)).flatMap fun plan => plan.features.map (plan.id, ·)).Perm
        (listings.filter (·.1 ∈ plans.map (·.id))) ∧
      ∀ plan ∈ plans, (withListings listings plan).features = [] ↔ ∀ listing ∈ listings, listing.1 ≠ plan.id :=
  ⟨withFeatures_run distinct fetched reading, withListings_flatMap_perm listings distinct,
    fun plan _ => listedFeatures_eq_nil_iff listings plan.id⟩

/-- The columns of the feature statement's rows. -/
def featureColumns : List Column := [⟨"plan_id", .text⟩, ⟨"code", .text⟩, ⟨"name", .text⟩]

/-- A database that lists single sign-on and an audit log under `pro`, API access under `basic`
and fax under the retired plan `legacy`. -/
def featureRule : Rule :=
  { pattern := "plan_features", remaining := none, error := none, columns := some featureColumns,
    rows := [[.str "pro", .str "sso", .str "Single sign-on"], [.str "basic", .str "api", .str "API access"],
      [.str "legacy", .str "fax", .str "Fax"], [.str "pro", .str "audit", .str "Audit log"]],
    tag := none, closes := false }

/-- A feature row of the feature statement's columns. -/
def featureRow (plan code name : String) : Row :=
  [(⟨"plan_id", .text⟩, some (.text plan)), (⟨"code", .text⟩, some (.text code)), (⟨"name", .text⟩, some (.text name))]

def featureRows : List Row :=
  [featureRow "pro" "sso" "Single sign-on", featureRow "basic" "api" "API access", featureRow "legacy" "fax" "Fax",
    featureRow "pro" "audit" "Audit log"]

def featureListings : List Listing :=
  [("pro", ⟨"sso", "Single sign-on"⟩), ("basic", ⟨"api", "API access"⟩), ("legacy", ⟨"fax", "Fax"⟩),
    ("pro", ⟨"audit", "Audit log"⟩)]

def basicPlan : Plan := ⟨"basic", "Basic", 1000, 200, 5, true, []⟩

def proPlan : Plan := ⟨"pro", "Pro", 5000, 150, 20, true, []⟩

set_option maxRecDepth 10000 in
/-- From a fresh session on that database, `basic` takes API access, `pro` takes single sign-on
and the audit log in the order of their rows, and fax goes nowhere. -/
theorem basic_and_pro_take_their_listed_features :
    ([basicPlan, proPlan].map (·.id)).Nodup ∧
      (fetchAll planFeaturesSql).run.run ⟨⟨[featureRule]⟩, none⟩ =
        (.ok featureRows, ⟨⟨[featureRule]⟩, some ⟨[(planFeaturesSql, featureColumns)]⟩⟩) ∧
      List.Forall₂ ListsFeature featureRows featureListings ∧
      (withFeatures [basicPlan, proPlan]).run.run ⟨⟨[featureRule]⟩, none⟩ =
        (.ok [{ basicPlan with features := [⟨"api", "API access"⟩] },
            { proPlan with features := [⟨"sso", "Single sign-on"⟩, ⟨"audit", "Audit log"⟩] }],
          ⟨⟨[featureRule]⟩, some ⟨[(planFeaturesSql, featureColumns)]⟩⟩) := by
  have distinct : ([basicPlan, proPlan].map (·.id)).Nodup := by decide
  have fetched : (fetchAll planFeaturesSql).run.run ⟨⟨[featureRule]⟩, none⟩ =
      (.ok featureRows, ⟨⟨[featureRule]⟩, some ⟨[(planFeaturesSql, featureColumns)]⟩⟩) := rfl
  have reading : List.Forall₂ ListsFeature featureRows featureListings :=
    .cons ⟨rfl, rfl, rfl⟩ (.cons ⟨rfl, rfl, rfl⟩ (.cons ⟨rfl, rfl, rfl⟩ (.cons ⟨rfl, rfl, rfl⟩ .nil)))
  refine ⟨distinct, fetched, reading, ?_⟩
  rw [(plans_take_their_listed_features _ distinct fetched reading).1]
  rfl

/-- Listing the plans gives each plan row's plan with the features listed under its id. -/
theorem listPlans_run {listed : Link} {planRows : List Row} {plans : List Plan}
    (fetchedPlans : (fetchAll listPlansSql).run.run link = (.ok planRows, listed))
    (plansRead : List.Forall₂ ListsPlan planRows plans) (distinct : (plans.map (·.id)).Nodup)
    (fetched : (fetchAll planFeaturesSql).run.run listed = (.ok rows, after))
    (reading : List.Forall₂ ListsFeature rows listings) :
    listPlans.run.run link = (.ok (plans.map (withListings listings)), if plans = [] then listed else after) := by
  have read := mapM_run_of_forall₂ (plansRead.imp fun _ _ reads => planOf_run reads) listed
  simp only [listPlans, run_bind, exchange_run, fetchedPlans, read, withFeatures_run distinct fetched reading]

/-- Looking a plan up gives its row's plan with the features listed under its id. -/
theorem getPlan_run {found : Link} {row : Row} {plan : Plan}
    (fetchedPlan : (fetchOptional getPlanSql).run.run link = (.ok (some row), found)) (planRead : ListsPlan row plan)
    (fetched : (fetchAll planFeaturesSql).run.run found = (.ok rows, after))
    (reading : List.Forall₂ ListsFeature rows listings) :
    getPlan.run.run link = (.ok (some (withListings listings plan)), after) := by
  have alone : ([plan].map (·.id)).Nodup := by simp
  simp only [getPlan, run_bind, exchange_run, fetchedPlan, planOf_run planRead,
    withFeatures_run alone fetched reading]
  rfl

end Filling

end SeatBilling.SqlStore
