import SeatBilling.Calls

/-!
# Catalog queries

The plans open for purchase, plans by id, and whether a plan includes a feature. A plan that
is no longer active can still be read, since subscribers may be on it, but not bought.
-/

namespace SeatBilling.Catalog

/-- The active plans, cheapest tier first. -/
def listActivePlans : BillingM (List Plan) := do
  return Plan.sortByTier (← Calls.listPlans true)

/-- A plan by id, active or not. -/
def getPlan (id : String) : BillingM Plan := do
  match ← Calls.getPlan id with
  | some plan => pure plan
  | none => failWith (.notFound ("Plan '" ++ id ++ "' not found"))

/-- A plan that may be bought. -/
def getPurchasablePlan (id : String) : BillingM Plan := do
  let plan ← getPlan id
  if plan.active then pure plan
  else failWith (.conflict ("Plan '" ++ plan.name ++ "' is no longer offered"))

/-- The features of a plan. -/
def featuresOf (id : String) : BillingM (List Feature) := do
  return (← getPlan id).features

/-- A feature by code. -/
def ensureFeature (code : String) : BillingM Feature := do
  match ← Calls.getFeature code with
  | some feature => pure feature
  | none => failWith (.notFound ("Feature '" ++ code ++ "' not found"))

/-- Whether a plan includes a feature; an unknown plan or an unknown feature code is not
found rather than not included. -/
def hasFeature (planId code : String) : BillingM Bool := do
  let plan ← getPlan planId
  if plan.includes code then pure true
  else
    let _ ← ensureFeature code
    pure false

end SeatBilling.Catalog
