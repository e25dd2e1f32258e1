/-!
# Doubles as exact binary fractions

A `Binary64` is a finite double: a sign and the magnitude `significand × 2 ^ exponent`.
`Binary64.ofRatio` rounds a nonnegative fraction to the nearest double, a tie going to the
even significand, and reports an overflow when the result would pass the largest double.
Products and quotients of doubles are rounded the same way from their exact values, so every
result here is the one that binary64 arithmetic with rounding to nearest gives, and no machine
arithmetic stands behind any of it.

`Binary64.ofDecimalByPowers` is the rule by which JSON text is read into a double: the decimal
significand is rounded first and then scaled by one rounded power of ten, which is not always
the double nearest to the decimal.
-/

namespace SeatBilling

/-- A finite double: `(-1) ^ negative × significand × 2 ^ exponent`. Values made by
`Binary64.ofRatio` are normal forms: the significand is below `2 ^ 53`, the exponent lies in
`[-1074, 971]`, and a significand below `2 ^ 52` goes with the exponent `-1074` only. -/
structure Binary64 where
  /-- Whether the sign is minus; a zero has a sign too. -/
  negative : Bool
  /-- The whole number that the power of two scales. -/
  significand : Nat
  /-- The power of two. -/
  exponent : Int
  deriving DecidableEq, Repr

namespace Binary64

/-- The least exponent of a double: the step between subnormal doubles is `2 ^ -1074`. -/
def leastExponent : Int := -1074

/-- The greatest exponent of a double with a 53-bit significand. -/
def greatestExponent : Int := 971

/-- A zero of the given sign. -/
def zero (negative : Bool) : Binary64 := ⟨negative, 0, leastExponent⟩

/-- Whether the double is a zero of either sign. -/
def isZero (value : Binary64) : Bool := value.significand == 0

/-- The magnitude as a fraction `(numerator, denominator)` of whole numbers. -/
def magnitude (value : Binary64) : Nat × Nat :=
  if 0 ≤ value.exponent then (value.significand * Nat.pow 2 value.exponent.toNat, 1)
  else (value.significand, Nat.pow 2 value.exponent.natAbs)

/-- Whether `num / den ≥ 2 ^ power`. -/
def atLeastPowerOfTwo (num den : Nat) (power : Int) : Bool :=
  if 0 ≤ power then den * Nat.pow 2 power.toNat ≤ num else den ≤ num * Nat.pow 2 power.natAbs

/-- The power `t` with `2 ^ t ≤ num / den < 2 ^ (t + 1)`, for positive `num` and `den`: the
difference of the two bit lengths is `t` or `t + 1`. -/
def floorLog2 (num den : Nat) : Int :=
  let guess : Int := (num.log2 : Int) - den.log2
  if atLeastPowerOfTwo num den guess then guess else guess - 1

/-- The quotient, remainder and divisor of `num / den` measured in units of `2 ^ unit`. -/
def unitsOf (num den : Nat) (unit : Int) : Nat × Nat × Nat :=
  let (top, bottom) :=
    if 0 ≤ unit then (num, den * Nat.pow 2 unit.toNat) else (num * Nat.pow 2 unit.natAbs, den)
  (top / bottom, top % bottom, bottom)

/-- A quotient rounded to nearest by its remainder: up when the remainder passes half the
divisor, and on exactly half only when that makes the quotient even. -/
def roundHalfEven (quotient remainder divisor : Nat) : Nat :=
  if divisor < 2 * remainder || (2 * remainder == divisor && quotient % 2 == 1) then
    quotient + 1
  else quotient

/-- The double nearest to `num / den` with the given sign, a tie going to the even
significand; `none` when it lies beyond the largest double. The step is `2 ^ unit`, where
`unit` puts the leading bit 52 places up, but never below the subnormal step; a significand
that rounds up to `2 ^ 53` is halved into the next exponent. The denominator is positive. -/
def ofRatio (negative : Bool) (num den : Nat) : Option Binary64 :=
  if num == 0 then some (zero negative)
  else
    let unit := max (floorLog2 num den - 52) leastExponent
    let (quotient, remainder, divisor) := unitsOf num den unit
    let rounded := roundHalfEven quotient remainder divisor
    let (significand, exponent) :=
      if rounded == Nat.pow 2 53 then (Nat.pow 2 52, unit + 1) else (rounded, unit)
    if greatestExponent < exponent then none else some ⟨negative, significand, exponent⟩

/-- The double nearest to a whole number. -/
def ofNat? (value : Nat) : Option Binary64 := ofRatio false value 1

/-- The rounded product of two doubles; `none` when it overflows. -/
def mul? (left right : Binary64) : Option Binary64 :=
  let (leftNum, leftDen) := left.magnitude
  let (rightNum, rightDen) := right.magnitude
  ofRatio (left.negative != right.negative) (leftNum * rightNum) (leftDen * rightDen)

/-- The rounded quotient of two doubles, the divisor not zero; `none` when it overflows. -/
def div? (left right : Binary64) : Option Binary64 :=
  let (leftNum, leftDen) := left.magnitude
  let (rightNum, rightDen) := right.magnitude
  ofRatio (left.negative != right.negative) (leftNum * rightDen) (leftDen * rightNum)

/-- The double nearest to `10 ^ power`. -/
def powerOfTen? (power : Nat) : Option Binary64 := ofNat? (Nat.pow 10 power)

/-- The largest power of ten that the reading rule scales by in one step. -/
def largestPowerStep : Nat := 308

/-- Scales a double by `10 ^ exponent` the way JSON text is read: within `10 ^ ±308` by one
product with (or quotient by) the double nearest to that power; beyond it a zero stays zero, a
positive power overflows, and a negative one divides by the double nearest `10 ^ 308` first.
`none` on overflow. -/
def scaleByTen : Nat → Binary64 → Int → Option Binary64
  | 0, value, _ => some value
  | fuel + 1, value, exponent =>
    if exponent.natAbs ≤ largestPowerStep then do
      let power ← powerOfTen? exponent.natAbs
      if 0 ≤ exponent then mul? value power else div? value power
    else if value.isZero then some value
    else if 0 ≤ exponent then none
    else do
      let power ← powerOfTen? largestPowerStep
      scaleByTen fuel (← div? value power) (exponent + largestPowerStep)

/-- The double that JSON text `significand × 10 ^ exponent` reads as, positive: the significand
rounded to the nearest double, then scaled by `scaleByTen`; `none` when it overflows. Each
step that does not finish takes 308 off the size of the exponent, so the fuel suffices. -/
def ofDecimalByPowers (significand : Nat) (exponent : Int) : Option Binary64 := do
  scaleByTen (exponent.natAbs / largestPowerStep + 1) (← ofNat? significand) exponent

/-- The whole number nearest to the double's magnitude, a half going up. -/
def roundHalfUp (value : Binary64) : Nat :=
  let (num, den) := value.magnitude
  (2 * num + den) / (2 * den)

/-- The double with its sign turned. -/
def neg (value : Binary64) : Binary64 := { value with negative := !value.negative }

end Binary64

end SeatBilling
