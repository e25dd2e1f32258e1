import SeatBilling.Proofs.Ledger.CommitDecision

/-!
# Seat pricing

The price of a period for a number of seats is the plan's base price plus every seat above the
included ones at the extra-seat price. The computation runs in words, a 32-bit seat difference and
64-bit prices; a step whose exact value leaves its word halts the whole run instead of wrapping.
For every plan the catalog's schema admits and every seat count a request may carry, the price is
the exact value whenever that value fits 64 bits, and there is none otherwise
(`priceFor?_eq`). Prices rise with the seat count, by the extra-seat price for each seat above
the larger of the old count and the included seats (`priceFor?_of_le`), and are never negative.

A seat increase of an active subscription bills exactly that difference when it is positive, and
is applied at once, with no invoice, when it costs nothing (`changeSeats_run_billed`,
`changeSeats_run_free`).
-/

namespace SeatBilling

open SeatBilling.Arith

namespace Arith

theorem fitsInt64_of_bounds {value : Int} (low : minInt64 ≤ value) (high : value ≤ maxInt64) :
    fitsInt64 value = true := by
  simp [fitsInt64, low, high]

theorem fitsInt32_of_bounds {value : Int} (low : minInt32 ≤ value) (high : value ≤ maxInt32) :
    fitsInt32 value = true := by
  simp [fitsInt32, low, high]

theorem within64_of_bounds {value : Int} (low : minInt64 ≤ value) (high : value ≤ maxInt64) :
    within64 value = some value := by
  simp [within64, fitsInt64, low, high]

theorem within64_of_gt {value : Int} (high : maxInt64 < value) : within64 value = none := by
  simp [within64, fitsInt64, Int.not_le.mpr high]

theorem within32_of_bounds {value : Int} (low : minInt32 ≤ value) (high : value ≤ maxInt32) :
    within32 value = some value := by
  simp [within32, fitsInt32, low, high]

end Arith

namespace Plan

/-- A plan the catalog's schema admits: prices that are not negative, and at least one included
seat, a count that fits a 32-bit word. -/
structure Admitted (plan : Plan) : Prop where
  price : 0 ≤ plan.price
  extraSeat : 0 ≤ plan.pricePerExtraSeat
  included : 1 ≤ plan.maxSeatsIncluded
  includedFits : plan.maxSeatsIncluded ≤ maxInt32

/-- The price of a period for `seats` seats, in exact integers. -/
def exactPrice (plan : Plan) (seats : Int) : Int :=
  plan.price + max (seats - plan.maxSeatsIncluded) 0 * plan.pricePerExtraSeat

variable {plan : Plan}

/-- Two exact prices differ by the extra-seat price of every seat between the larger of each count
and the included seats. -/
theorem exactPrice_sub (plan : Plan) (fewer more : Int) :
    plan.exactPrice more - plan.exactPrice fewer =
      (max more plan.maxSeatsIncluded - max fewer plan.maxSeatsIncluded) * plan.pricePerExtraSeat := by
  have above : ∀ seats : Int, max (seats - plan.maxSeatsIncluded) 0 = max seats plan.maxSeatsIncluded - plan.maxSeatsIncluded := by
    intro seats
    omega
  unfold exactPrice
  rw [above, above, Int.sub_mul, Int.sub_mul, Int.sub_mul]
  omega

theorem exactPrice_nonneg (admitted : plan.Admitted) (seats : Int) : 0 ≤ plan.exactPrice seats := by
  have extra : 0 ≤ max (seats - plan.maxSeatsIncluded) 0 * plan.pricePerExtraSeat :=
    Int.mul_nonneg (Int.le_max_right _ _) admitted.extraSeat
  unfold exactPrice
  have := admitted.price
  omega

theorem exactPrice_mono (admitted : plan.Admitted) {fewer more : Int} (le : fewer ≤ more) :
    plan.exactPrice fewer ≤ plan.exactPrice more := by
  have apart := plan.exactPrice_sub fewer more
  have rise : 0 ≤ (max more plan.maxSeatsIncluded - max fewer plan.maxSeatsIncluded) * plan.pricePerExtraSeat :=
    Int.mul_nonneg (by omega) admitted.extraSeat
  omega

/-- For a seat count a request may carry, the price in words is the exact price when that fits
64 bits, and nothing otherwise: the computation never wraps. -/
theorem priceFor?_eq (admitted : plan.Admitted) {seats : Int} (positive : 1 ≤ seats) (bounded : seats ≤ maxInt32) :
    plan.priceFor? seats = if plan.exactPrice seats ≤ maxInt64 then some (plan.exactPrice seats) else none := by
  have included := admitted.included
  have includedFits := admitted.includedFits
  have above : within32 (seats - plan.maxSeatsIncluded) = some (seats - plan.maxSeatsIncluded) :=
    within32_of_bounds (by unfold minInt32; unfold maxInt32 at bounded includedFits; omega)
      (by unfold maxInt32 at bounded includedFits ⊢; omega)
  have extra : 0 ≤ max (seats - plan.maxSeatsIncluded) 0 * plan.pricePerExtraSeat :=
    Int.mul_nonneg (Int.le_max_right _ _) admitted.extraSeat
  have price := admitted.price
  have least : minInt64 ≤ 0 := by decide
  simp only [priceFor?, above, Option.bind_eq_bind, Option.bind_some]
  unfold exactPrice
  -- the extra seats' price fits whenever the whole price does, and the base price is not negative
  by_cases fits : plan.price + max (seats - plan.maxSeatsIncluded) 0 * plan.pricePerExtraSeat ≤ maxInt64
  · rw [within64_of_bounds (by omega) (by omega), Option.bind_some, within64_of_bounds (by omega) fits, if_pos fits]
  · rw [if_neg fits]
    cases within : within64 (max (seats - plan.maxSeatsIncluded) 0 * plan.pricePerExtraSeat) with
    | none => rfl
    | some product =>
      obtain ⟨-, same⟩ := within64_eq_some.mp within
      rw [Option.bind_some, ← same, within64_of_gt (by omega)]

/-- A price in words is the exact price, and so never negative. -/
theorem priceFor?_nonneg (admitted : plan.Admitted) {seats amount : Int} (priced : plan.priceFor? seats = some amount) :
    0 ≤ amount := by
  have extra : 0 ≤ max (seats - plan.maxSeatsIncluded) 0 * plan.pricePerExtraSeat :=
    Int.mul_nonneg (Int.le_max_right _ _) admitted.extraSeat
  simp only [priceFor?, Option.bind_eq_bind] at priced
  obtain ⟨above, aboveFits, rest⟩ := Option.bind_eq_some_iff.mp priced
  obtain ⟨product, productFits, total⟩ := Option.bind_eq_some_iff.mp rest
  obtain ⟨-, sameAbove⟩ := within32_eq_some.mp aboveFits
  obtain ⟨-, sameProduct⟩ := within64_eq_some.mp productFits
  obtain ⟨-, sameTotal⟩ := within64_eq_some.mp total
  have price := admitted.price
  subst sameAbove sameProduct
  omega

/-- When the price of the larger count fits its word, so does the smaller one's, no higher, and
the two differ by the extra-seat price of every seat between the larger of each count and the
included seats. -/
theorem priceFor?_of_le (admitted : plan.Admitted) {fewer more : Int} (positive : 1 ≤ fewer) (le : fewer ≤ more)
    (bounded : more ≤ maxInt32) {raised : Int} (priced : plan.priceFor? more = some raised) :
    ∃ current, plan.priceFor? fewer = some current ∧ current ≤ raised ∧
      raised - current = (max more plan.maxSeatsIncluded - max fewer plan.maxSeatsIncluded) * plan.pricePerExtraSeat := by
  rw [priceFor?_eq admitted (by omega) bounded] at priced
  by_cases fits : plan.exactPrice more ≤ maxInt64
  · rw [if_pos fits, Option.some.injEq] at priced
    subst priced
    have lower := exactPrice_mono admitted le
    refine ⟨plan.exactPrice fewer, ?_, lower, exactPrice_sub plan fewer more⟩
    rw [priceFor?_eq admitted positive (by omega), if_pos (by omega)]
  · rw [if_neg fits] at priced
    cases priced

/-- A price in words fits a 64-bit word. -/
theorem priceFor?_le {seats amount : Int} (priced : plan.priceFor? seats = some amount) : amount ≤ maxInt64 := by
  simp only [priceFor?, Option.bind_eq_bind] at priced
  obtain ⟨_, -, rest⟩ := Option.bind_eq_some_iff.mp priced
  obtain ⟨_, -, total⟩ := Option.bind_eq_some_iff.mp rest
  obtain ⟨fits, same⟩ := within64_eq_some.mp total
  simp only [fitsInt64, Bool.and_eq_true, decide_eq_true_eq] at fits
  rw [← same]
  exact fits.2

/-- The price of a seat increase is positive exactly when the new count passes both the old one
and the included seats, and extra seats cost something. -/
theorem seatCost_pos_iff (admitted : plan.Admitted) {fewer more : Int} (le : fewer ≤ more) :
    0 < (max more plan.maxSeatsIncluded - max fewer plan.maxSeatsIncluded) * plan.pricePerExtraSeat ↔
      max fewer plan.maxSeatsIncluded < more ∧ 0 < plan.pricePerExtraSeat := by
  have extraSeat := admitted.extraSeat
  constructor
  · intro positive
    have costly : 0 < plan.pricePerExtraSeat := by
      rcases Int.lt_or_eq_of_le extraSeat with costly | free
      · exact costly
      · rw [← free, Int.mul_zero] at positive
        exact absurd positive (Int.lt_irrefl 0)
    have seatsApart : 0 < max more plan.maxSeatsIncluded - max fewer plan.maxSeatsIncluded :=
      Int.pos_of_mul_pos_left positive costly
    exact ⟨by omega, costly⟩
  · rintro ⟨passes, costly⟩
    exact Int.mul_pos (by omega) costly

end Plan

/-! ## Raising the seat cap -/

namespace Calls

theorem getSubscriptionByCompany_run {world : World} (steady : Steady world) (company : Uuid) :
    (getSubscriptionByCompany company).run.run world = (.ok (world.store.subscriptionOf? company), world) := by
  rw [getSubscriptionByCompany, guarded_run steady.noFaults, backed_run steady.inMemory, readStore_run]

end Calls

/-! ## What an invoice bills -/

/-- What a request asks to bill: the company, the purpose, the plan, the seats and the amount. -/
def InvoiceRequest.terms (request : InvoiceRequest) : Uuid × InvoicePurpose × String × Int × Int :=
  (request.company, request.purpose, request.plan, request.seats, request.amount)

/-- What the action gives, given what the first one gave: a sequence yields what its rest yields
from every value the first may give. -/
theorem Yields.bind_of {α β : Type} {holds : α → Prop} {given : β → Prop} {first : BillingM β}
    {next : β → BillingM α} (yields : Yields given first) (rest : ∀ value, given value → Yields holds (next value)) :
    Yields holds (first >>= next) := by
  intro world value after ran
  rw [run_bind] at ran
  rcases outcome : first.run.run world with ⟨_ | middle, between⟩ <;> rw [outcome] at ran
  · cases ran
  · exact rest middle (yields world middle between outcome) between value after ran

/-- Storing a request gives the pending invoice it asks for, whatever the store does with it. -/
theorem Invoicing.storePending_yields (request : InvoiceRequest) :
    Yields (fun invoice => invoice.terms = request.terms ∧ invoice.isPending = true) (Invoicing.storePending request) := by
  unfold Invoicing.storePending
  exact Yields.bind fun at_ => Yields.bind fun settings => Yields.bind fun id => Yields.bind fun expiresAt =>
    Yields.bind fun _ => Yields.pure ⟨rfl, rfl⟩

/-- An invoice the core creates bills what its request asks for, and is pending. -/
theorem Invoicing.create_yields (request : InvoiceRequest) :
    Yields (fun invoice => invoice.terms = request.terms ∧ invoice.isPending = true) (Invoicing.create request) := by
  unfold Invoicing.create
  refine Yields.bind fun _ => Yields.bind_of (Invoicing.storePending_yields request) fun stored billed => ?_
  -- linking the invoice to the provider's copy changes none of what it bills
  refine Yields.bind fun created => Yields.bind_of (Yields.bind fun _ => Yields.pure rfl) fun linked same => ?_
  subst same
  exact Yields.bind fun _ => Yields.pure billed

/-- A subscription whose seat cap was raised to `seats` at `now`, with no decrease waiting. -/
def Subscription.raisedTo (subscription : Subscription) (seats : Int) (now : Time.Moment) : Subscription :=
  { subscription with maxSeats := seats, pendingMaxSeats := none, updatedAt := now }

namespace Ledger

/-- The invoice request of a seat increase to `seats` costing `cost`. -/
def seatIncreaseRequest (company : Uuid) (subscription : Subscription) (plan : Plan) (seats cost : Int) : InvoiceRequest :=
  { company := company, subscription := some subscription.id, purpose := .seatChange, plan := subscription.plan,
    seats := seats, amount := cost,
    description := toString (seats - subscription.maxSeats) ++ " additional seats on the " ++ plan.name ++ " plan" }

theorem requirePositiveSeats_run (world : World) {seats : Int} (positive : 1 ≤ seats) :
    (requirePositiveSeats seats).run.run world = (.ok (), world) := by
  unfold requirePositiveSeats
  rw [if_neg (Int.not_lt.mpr positive)]
  rfl

theorem priceOf_run (world : World) {plan : Plan} {seats amount : Int} (priced : plan.priceFor? seats = some amount) :
    (priceOf plan seats).run.run world = (.ok amount, world) := by
  rw [priceOf, priced, run_orOverflow_some]

variable {world : World} (steady : Steady world) {company : Uuid} {subscription : Subscription}
  (stored : world.store.subscriptionOf? company = some subscription)
include steady stored

theorem requireSubscription_run : (requireSubscription company).run.run world = (.ok subscription, world) := by
  unfold requireSubscription subscriptionOf
  rw [run_bind, Calls.getSubscriptionByCompany_run steady, stored]
  rfl

variable {plan : Plan} {seats raised current : Int} (active : subscription.status = .active)
  (positive : 1 ≤ seats) (more : subscription.maxSeats < seats)
  (found : world.store.plan? subscription.plan = some plan)
  (pricedRaised : plan.priceFor? seats = some raised) (pricedCurrent : plan.priceFor? subscription.maxSeats = some current)
  (apart : Arith.fitsInt64 (raised - current) = true)
include active positive more found pricedRaised pricedCurrent apart

/-- A seat increase of an active subscription reads the plan, prices both seat counts and goes
on with their difference. -/
theorem changeSeats_run_raise :
    (changeSeats company seats).run.run world =
      (if raised - current > 0 then do
        let added ← orOverflow (Arith.within32 (seats - subscription.maxSeats))
        let invoice ← Invoicing.create
          { company := company, subscription := some subscription.id, purpose := .seatChange,
            plan := subscription.plan, seats := seats, amount := raised - current,
            description := toString added ++ " additional seats on the " ++ plan.name ++ " plan" }
        pure (SeatChange.invoiced invoice)
      else do
        let saved ← save subscription (subscription.raisedTo seats world.clock)
        recordSeatEvent saved .seatsIncreased subscription.maxSeats world.clock
        pure (SeatChange.applied saved)).run.run world := by
  have differs : Arith.within64 (raised - current) = some (raised - current) := by
    simp [Arith.within64, apart]
  have usable : (subscription.status != .active) = false := by simp [active]
  unfold changeSeats
  simp only [run_bind, requirePositiveSeats_run world positive, requireSubscription_run steady stored, usable,
    Bool.false_eq_true, if_false, run_now, gt_iff_lt, more, if_true,
    Catalog.getPlan_run steady found, priceOf_run world pricedRaised, priceOf_run world pricedCurrent, differs,
    run_orOverflow_some]
  rfl

/-- A seat increase that costs something is the creation of its invoice, for the difference of
the two prices. -/
theorem changeSeats_run_billed (costly : 0 < raised - current)
    (added : Arith.fitsInt32 (seats - subscription.maxSeats) = true) :
    (changeSeats company seats).run.run world =
      match (Invoicing.create (seatIncreaseRequest company subscription plan seats (raised - current))).run.run world with
      | (.ok invoice, after) => (.ok (.invoiced invoice), after)
      | (.error halt, after) => (.error halt, after) := by
  have counted : Arith.within32 (seats - subscription.maxSeats) = some (seats - subscription.maxSeats) := by
    simp [Arith.within32, added]
  rw [changeSeats_run_raise steady stored active positive more found pricedRaised pricedCurrent apart,
    if_pos costly, run_bind, counted, run_orOverflow_some]
  dsimp only
  rw [run_bind, seatIncreaseRequest]
  rcases (Invoicing.create _).run.run world with ⟨_ | _, after⟩ <;> rfl

/-- A seat increase that costs nothing is saved at once, at the next version, and no invoice is
made. -/
theorem changeSeats_run_free (free : raised - current ≤ 0) (keyed : world.store.Keyed)
    (versionFits : Arith.fitsInt64 (subscription.version + 1) = true) :
    ∃ after, (changeSeats company seats).run.run world =
        (.ok (.applied { subscription.raisedTo seats world.clock with version := subscription.version + 1 }), after) ∧
      after.store.invoices = world.store.invoices := by
  have byId : world.store.subscription? subscription.id = some subscription :=
    keyed.subscription?_of_mem (List.mem_of_find?_eq_some stored)
  have sameId : (subscription.raisedTo seats world.clock).id = subscription.id := rfl
  rw [changeSeats_run_raise steady stored active positive more found pricedRaised pricedCurrent apart,
    if_neg (Int.not_lt.mpr free), run_bind, save_run steady byId sameId versionFits]
  dsimp only
  rw [run_bind, recordSeatEvent, EventLog.record_run (steady.update _ world.serial world.provider)]
  exact ⟨_, rfl, rfl⟩

end Ledger

/-! ## Seat prices, and what a seat increase bills -/

/-- A seat increase of an active subscription from `fewer` seats to `more`, in a steady world
whose records are keyed: what it bills or applies, for a plan the schema admits. -/
theorem Ledger.changeSeats_bills_difference {plan : Plan} (admitted : plan.Admitted) {fewer more : Int} (positive : 1 ≤ fewer)
    (rising : fewer < more) (bounded : more ≤ maxInt32) {world : World} (steady : Steady world) (keyed : world.store.Keyed)
    {company : Uuid} {subscription : Subscription} (stored : world.store.subscriptionOf? company = some subscription)
    (active : subscription.status = .active) (current : subscription.maxSeats = fewer)
    (found : world.store.plan? subscription.plan = some plan) {raised : Int} (priced : plan.priceFor? more = some raised)
    (versionFits : Arith.fitsInt64 (subscription.version + 1) = true) :
    let cost := (max more plan.maxSeatsIncluded - max fewer plan.maxSeatsIncluded) * plan.pricePerExtraSeat
    (0 < cost ↔ max fewer plan.maxSeatsIncluded < more ∧ 0 < plan.pricePerExtraSeat) ∧
      (0 < cost → (changeSeats company more).run.run world =
        match (Invoicing.create (seatIncreaseRequest company subscription plan more cost)).run.run world with
        | (.ok invoice, after) => (.ok (.invoiced invoice), after)
        | (.error halt, after) => (.error halt, after)) ∧
      (cost ≤ 0 → ∃ after, (changeSeats company more).run.run world =
          (.ok (.applied { subscription.raisedTo more world.clock with version := subscription.version + 1 }), after) ∧
        after.store.invoices = world.store.invoices) := by
  intro cost
  subst current
  obtain ⟨lower, pricedLower, below, apart⟩ := Plan.priceFor?_of_le admitted positive (Int.le_of_lt rising) bounded priced
  -- both prices lie in a 64-bit word and are not negative, so their difference fits one too
  have differenceFits : Arith.fitsInt64 (raised - lower) = true := by
    have high := Plan.priceFor?_le priced
    have low := Plan.priceFor?_nonneg admitted pricedLower
    unfold Arith.maxInt64 at high
    exact Arith.fitsInt64_of_bounds (by unfold Arith.minInt64; omega) (by unfold Arith.maxInt64; omega)
  have addedFits : Arith.fitsInt32 (more - subscription.maxSeats) = true := by
    unfold Arith.maxInt32 at bounded
    exact Arith.fitsInt32_of_bounds (by unfold Arith.minInt32; omega) (by unfold Arith.maxInt32; omega)
  have raising := changeSeats_run_billed steady stored active (by omega) rising found priced pricedLower differenceFits
  have keeping := changeSeats_run_free steady stored active (by omega) rising found priced pricedLower differenceFits
  rw [apart] at raising keeping
  exact ⟨Plan.seatCost_pos_iff admitted (Int.le_of_lt rising), fun costly => raising costly addedFits,
    fun free => keeping free keyed versionFits⟩

/-- Seat pricing is exact up to the word it is computed in, and rises with the seat count. For
every plan the catalog's schema admits and seat counts `1 ≤ fewer ≤ more` of a 32-bit word: the
price for `more` seats is the exact price when that fits 64 bits and there is none otherwise, so it
never wraps; when it is there, so is the price for `fewer`, no higher, and the two differ by the
extra-seat price of every seat between the larger of each count and the included seats; no price
is negative. Hence a seat increase of an active subscription in a steady world creates the seat
change invoice for that difference, every invoice so created billing exactly it, when the
difference is positive, which is when the new count passes the old one and the included seats
and extra seats cost something; otherwise it applies the increase at once, with no invoice. -/
theorem seat_prices_rise_exactly (plan : Plan) (admitted : plan.Admitted) (fewer more : Int) (positive : 1 ≤ fewer)
    (le : fewer ≤ more) (bounded : more ≤ maxInt32) :
    plan.priceFor? more = (if plan.exactPrice more ≤ maxInt64 then some (plan.exactPrice more) else none) ∧
      (∀ seats amount, plan.priceFor? seats = some amount → 0 ≤ amount) ∧
      (∀ raised, plan.priceFor? more = some raised → ∃ current, plan.priceFor? fewer = some current ∧ current ≤ raised ∧
        raised - current = (max more plan.maxSeatsIncluded - max fewer plan.maxSeatsIncluded) * plan.pricePerExtraSeat) ∧
      ∀ (world : World) (company : Uuid) (subscription : Subscription) (raised : Int), Steady world → world.store.Keyed →
        world.store.subscriptionOf? company = some subscription → subscription.status = .active →
        subscription.maxSeats = fewer → fewer < more → world.store.plan? subscription.plan = some plan →
        plan.priceFor? more = some raised → Arith.fitsInt64 (subscription.version + 1) = true →
        let cost := (max more plan.maxSeatsIncluded - max fewer plan.maxSeatsIncluded) * plan.pricePerExtraSeat
        (0 < cost ↔ max fewer plan.maxSeatsIncluded < more ∧ 0 < plan.pricePerExtraSeat) ∧
          (0 < cost → (Ledger.changeSeats company more).run.run world =
              match (Invoicing.create (Ledger.seatIncreaseRequest company subscription plan more cost)).run.run world with
              | (.ok invoice, after) => (.ok (.invoiced invoice), after)
              | (.error halt, after) => (.error halt, after)) ∧
          Yields (fun invoice => invoice.terms = (Ledger.seatIncreaseRequest company subscription plan more cost).terms)
            (Invoicing.create (Ledger.seatIncreaseRequest company subscription plan more cost)) ∧
          (cost ≤ 0 → ∃ after, (Ledger.changeSeats company more).run.run world =
              (.ok (.applied { subscription.raisedTo more world.clock with version := subscription.version + 1 }), after) ∧
            after.store.invoices = world.store.invoices) := by
  refine ⟨Plan.priceFor?_eq admitted (by omega) bounded, fun _ _ priced => Plan.priceFor?_nonneg admitted priced,
    fun _ priced => Plan.priceFor?_of_le admitted positive le bounded priced, ?_⟩
  intro world company subscription raised steady keyed stored active current rising found priced versionFits cost
  obtain ⟨costs, billed, free⟩ := Ledger.changeSeats_bills_difference admitted positive rising bounded steady keyed
    stored active current found priced versionFits
  exact ⟨costs, billed, fun _ _ _ created => (Invoicing.create_yields _ _ _ _ created).1, free⟩

/-- Raising the January subscription from five seats to eight bills three extra seats of the basic
plan, 3000. -/
theorem january_seat_increase_bills_difference :
    Ledger.basicPlan.Admitted ∧ januaryWorld.store.Keyed ∧
      Ledger.basicPlan.priceFor? 8 = some 13000 ∧ Ledger.basicPlan.priceFor? 5 = some 10000 ∧
      (Ledger.changeSeats Ledger.exampleCompany 8).run.run januaryWorld =
        match (Invoicing.create (Ledger.seatIncreaseRequest Ledger.exampleCompany januarySubscription Ledger.basicPlan 8
            3000)).run.run januaryWorld with
        | (.ok invoice, after) => (.ok (.invoiced invoice), after)
        | (.error halt, after) => (.error halt, after) := by
  have admitted : Ledger.basicPlan.Admitted := ⟨by decide, by decide, by decide, by decide⟩
  have keyed : januaryWorld.store.Keyed := ⟨List.nodup_singleton _, List.nodup_nil⟩
  have priced : Ledger.basicPlan.priceFor? 8 = some 13000 := by decide
  obtain ⟨-, -, lower, raise⟩ := seat_prices_rise_exactly Ledger.basicPlan admitted 5 8 (by decide) (by decide) (by decide)
  obtain ⟨-, billed, -, -⟩ := raise januaryWorld Ledger.exampleCompany januarySubscription 13000 ⟨rfl, rfl⟩ keyed rfl rfl rfl
    (by decide) rfl priced (by decide)
  exact ⟨admitted, keyed, priced, by decide, billed (by decide)⟩

/-- A plan whose extra seats cost the largest 64-bit price. -/
def bulkPlan : Plan := ⟨"bulk", "bulk", 0, maxInt64, 1, true, []⟩

/-- Three seats of the bulk plan cost more than a 64-bit word holds: there is no price, where the
exact one is 18446744073709551614. -/
theorem bulk_seats_overflow_price :
    bulkPlan.Admitted ∧ bulkPlan.exactPrice 3 = 18446744073709551614 ∧ bulkPlan.priceFor? 3 ≠ some (bulkPlan.exactPrice 3) :=
  ⟨⟨by decide, by decide, by decide, by decide⟩, by decide, by decide⟩

end SeatBilling
