import SeatBilling.Arith.Checked

/-!
# Plans and features

A plan has a base price per period, a number of seats the price includes, a price for every
seat above them, and the features it includes. Plans are ranked in tiers: by price, then by
included seats, then by name (in the order of the names' bytes). An upgrade goes to a higher
tier and a downgrade to one that is not higher.

The price of a period for a number of seats is the base price plus every seat above the
included ones at the extra-seat price. Seat counts are 32-bit and prices 64-bit words; a
price that leaves its word has no value (`none`).
-/

namespace SeatBilling

open SeatBilling.Arith

/-- A feature a plan may include, by code. -/
structure Feature where
  code : String
  name : String
  deriving DecidableEq, Repr, Inhabited

/-- A plan of the catalog. -/
structure Plan where
  id : String
  name : String
  /-- Base price per period, in minor currency units. -/
  price : Int
  /-- Price of each seat above `maxSeatsIncluded`. -/
  pricePerExtraSeat : Int
  maxSeatsIncluded : Int
  active : Bool
  features : List Feature
  deriving DecidableEq, Repr, Inhabited

namespace Plan

/-- The tier order: price, then included seats, then name. -/
def tierCmp (plan other : Plan) : Ordering :=
  (compare plan.price other.price).then
    ((compare plan.maxSeatsIncluded other.maxSeatsIncluded).then (compare plan.name other.name))

/-- Whether a plan ranks strictly above another. -/
def isHigherTierThan (plan other : Plan) : Bool := plan.tierCmp other == .gt

/-- The price of one period for `seats` seats, if every step stays in its word. -/
def priceFor? (plan : Plan) (seats : Int) : Option Int := do
  let above ← within32 (seats - plan.maxSeatsIncluded)
  let extra ← within64 (max above 0 * plan.pricePerExtraSeat)
  within64 (plan.price + extra)

/-- Whether the plan includes a feature code. -/
def includes (plan : Plan) (code : String) : Bool := plan.features.any (·.code == code)

/-- The codes of the plan's features, in order. -/
def featureCodes (plan : Plan) : List String := plan.features.map (·.code)

/-- Plans in tier order; plans of one tier keep their order. -/
def sortByTier (plans : List Plan) : List Plan :=
  plans.mergeSort (fun plan other => plan.tierCmp other != .gt)

end Plan

end SeatBilling
