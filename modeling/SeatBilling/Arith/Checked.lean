/-!
# Checked arithmetic on signed words

Amounts of money, seat counts and durations are signed words: prices and durations are 64
bits wide, seat counts 32 bits. An operation whose exact result leaves the word is refused
(`none`) instead of wrapping, so every caller decides what an overflow means.
-/

namespace SeatBilling.Arith

/-- The least 64-bit signed value. -/
def minInt64 : Int := -9223372036854775808

/-- The greatest 64-bit signed value. -/
def maxInt64 : Int := 9223372036854775807

/-- The least 32-bit signed value. -/
def minInt32 : Int := -2147483648

/-- The greatest 32-bit signed value. -/
def maxInt32 : Int := 2147483647

/-- Whether a value fits a 64-bit signed word. -/
def fitsInt64 (value : Int) : Bool := minInt64 ≤ value && value ≤ maxInt64

/-- Whether a value fits a 32-bit signed word. -/
def fitsInt32 (value : Int) : Bool := minInt32 ≤ value && value ≤ maxInt32

/-- The exact value if it fits 64 bits. -/
def within64 (value : Int) : Option Int := if fitsInt64 value then some value else none

/-- The exact value if it fits 32 bits. -/
def within32 (value : Int) : Option Int := if fitsInt32 value then some value else none

theorem within64_eq_some {value result : Int} :
    within64 value = some result ↔ fitsInt64 value = true ∧ value = result := by
  unfold within64
  by_cases fits : fitsInt64 value = true <;> simp [fits]

theorem within32_eq_some {value result : Int} :
    within32 value = some result ↔ fitsInt32 value = true ∧ value = result := by
  unfold within32
  by_cases fits : fitsInt32 value = true <;> simp [fits]

end SeatBilling.Arith
