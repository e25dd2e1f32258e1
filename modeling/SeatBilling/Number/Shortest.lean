import SeatBilling.Number.Binary64

/-!
# The shortest decimal of a double, and its text

A positive double stands for every real number that rounds to it: the interval halfway to
each neighbouring double, its ends included when the significand is even (a tie rounds to the
even one). `Binary64.shortest` finds the coarsest decimal grid `10 ^ power` with a point in
that interval, by testing the double's two neighbours on each grid from the top down (if any
point of a grid lies in the interval, one of those two does), and takes the nearer of the two
when both do, a tie going to the even digits. So its digits read back as the double, no
shorter digits do, and of the shortest ones they are the nearest.

`Binary64.text` writes those digits the way doubles appear in JSON error messages:
positionally while the point falls within sixteen digits of the first one and no more than
four zeros follow it, with `.0` after a whole number; otherwise as one digit, the rest after a
point, and an exponent with its sign always written (`1e+20`, `1.5e-7`). Zeros are `0.0` and
`-0.0`.
-/

namespace SeatBilling.Binary64

/-- The number of decimal digits of a whole number, zero having one. -/
def digitCount (value : Nat) : Nat := (Nat.toDigits 10 value).length

/-- The interval of reals that round to a positive double, in units of `2 ^ (exponent - 2)`:
its low end, the value and its high end. The gap below is half as wide where the significand
is `2 ^ 52` and the exponent is not the least, since the double below has a finer step. -/
def roundingInterval (value : Binary64) : Nat × Nat × Nat :=
  let middle := 4 * value.significand
  let below := if value.significand == Nat.pow 2 52 && leastExponent < value.exponent then 1 else 2
  (middle - below, middle, middle + 2)

/-- The first of the two digits `digits` and `digits + 1` on the grid `10 ^ power` that lies in
the interval, the nearer of them when both do (a tie going to the even one). Quantities are
compared in integers: `x` units of `2 ^ (exponent - 2)` against `d × 10 ^ power` is `x × unit`
against `d × step`. -/
def gridHit (value : Binary64) (power : Int) : Option Nat :=
  let (low, middle, high) := value.roundingInterval
  let twoPower := value.exponent - 2
  let unit := Nat.pow 2 (max twoPower 0).toNat * Nat.pow 10 (max (-power) 0).toNat
  let step := Nat.pow 2 (max (-twoPower) 0).toNat * Nat.pow 10 (max power 0).toNat
  let closed := value.significand % 2 == 0
  let inside (digits : Nat) : Bool :=
    if closed then low * unit ≤ digits * step && digits * step ≤ high * unit
    else low * unit < digits * step && digits * step < high * unit
  let floor := middle * unit / step
  let ceil := floor + 1
  match inside floor, inside ceil with
  | true, true =>
    let belowGap := middle * unit - floor * step
    let aboveGap := ceil * step - middle * unit
    if belowGap < aboveGap then some floor
    else if aboveGap < belowGap then some ceil
    else if floor % 2 == 0 then some floor
    else some ceil
  | true, false => some floor
  | false, true => some ceil
  | false, false => none

/-- Tries the grids `10 ^ power`, `10 ^ (power - 1)`, … for at most `fuel` of them. -/
def firstHit (value : Binary64) : Nat → Int → Option (Nat × Int)
  | 0, _ => none
  | fuel + 1, power =>
    match value.gridHit power with
    | some digits => some (digits, power)
    | none => firstHit value fuel (power - 1)

/-- Moves the zeros at the end of the digits into the power. -/
def dropTrailingZeros : Nat → Nat → Int → Nat × Int
  | 0, digits, power => (digits, power)
  | fuel + 1, digits, power =>
    if digits != 0 && digits % 10 == 0 then dropTrailingZeros fuel (digits / 10) (power + 1)
    else (digits, power)

/-- The shortest decimal `digits × 10 ^ power` that rounds to a positive double, the nearest of
those. The search starts at a grid coarser than the whole double (`10 ^ n` passes the high end
when `n` counts the digits of its whole part) and ends within 800 grids, since every double
lies between `10 ^ -324` and `10 ^ 309`. -/
def shortest (value : Binary64) : Nat × Int :=
  let (_, _, high) := value.roundingInterval
  let twoPower := value.exponent - 2
  let whole :=
    if 0 ≤ twoPower then high * Nat.pow 2 twoPower.toNat else high / Nat.pow 2 twoPower.natAbs
  let top : Int := digitCount whole
  match value.firstHit 800 top with
  | some (digits, power) => dropTrailingZeros (digitCount digits) digits power
  | none => (value.significand, 0)

/-- Writes `digits × 10 ^ power` with a sign: positionally with `.0` for a whole number of at
most sixteen digits, positionally with a point when the point falls within the first sixteen
digits or at most four zeros follow it, and otherwise as a first digit, the rest after a point,
`e` and the signed exponent. The digits carry no zero at their end. -/
def decimalText (negative : Bool) (digits : Nat) (power : Int) : String :=
  let sign := if negative then "-" else ""
  let chars := Nat.toDigits 10 digits
  let count : Int := chars.length
  let point := count + power
  let zeros (n : Nat) : List Char := List.replicate n '0'
  sign ++ String.ofList (
    if 0 ≤ power && point ≤ 16 then chars ++ zeros power.toNat ++ ['.', '0']
    else if 0 < point && point ≤ 16 then
      chars.take point.toNat ++ ['.'] ++ chars.drop point.toNat
    else if -5 < point && point ≤ 0 then ['0', '.'] ++ zeros point.natAbs ++ chars
    else
      let shown := point - 1
      let exponent := (if shown < 0 then '-' else '+') :: Nat.toDigits 10 shown.natAbs
      match chars with
      | [single] => single :: 'e' :: exponent
      | first :: rest => first :: '.' :: rest ++ 'e' :: exponent
      | [] => ['0', '.', '0'])

/-- The text of a double: the shortest digits that read back, written by `decimalText`. -/
def text (value : Binary64) : String :=
  if value.isZero then (if value.negative then "-0.0" else "0.0")
  else
    let (digits, power) := value.shortest
    decimalText value.negative digits power

end SeatBilling.Binary64
