/-!
# Reading whole numbers

A whole number is written as an optional sign and at least one decimal digit, with nothing
around them: `+` is always allowed, `-` only where negative numbers are. Digits are read from
the left, and the first one that takes the number out of its range decides the error, even if
a character that is not a digit follows.
-/

namespace SeatBilling.Text

/-- Why a text is not a whole number of a range. -/
inductive NumberError where
  | empty
  | invalidDigit
  | tooLarge
  | tooSmall
  deriving DecidableEq, Repr

/-- The text of a reading error. -/
def NumberError.message : NumberError → String
  | .empty => "cannot parse integer from empty string"
  | .invalidDigit => "invalid digit found in string"
  | .tooLarge => "number too large to fit in target type"
  | .tooSmall => "number too small to fit in target type"

/-- Reads digits onto `value`, away from zero in the direction of `negative`, keeping within
`[low, high]`. -/
def readDigits (negative : Bool) (low high : Int) : Int → List Char → Except NumberError Int
  | value, [] => .ok value
  | value, char :: rest =>
    if !char.isDigit then .error .invalidDigit
    else
      let digit : Int := char.toNat - '0'.toNat
      let next := if negative then value * 10 - digit else value * 10 + digit
      if next > high then .error .tooLarge
      else if next < low then .error .tooSmall
      else readDigits negative low high next rest

/-- Reads a whole number in `[low, high]`; a leading `-` is a sign only when `low` is
negative. -/
def readWhole (low high : Int) (text : String) : Except NumberError Int :=
  match text.toList with
  | [] => .error .empty
  | ['+'] | ['-'] => .error .invalidDigit
  | '+' :: digits => readDigits false low high 0 digits
  | '-' :: digits => if low < 0 then readDigits true low high 0 digits else .error .invalidDigit
  | digits => readDigits false low high 0 digits

/-- Reads a 64-bit signed integer. -/
def readInt64 (text : String) : Except NumberError Int :=
  readWhole (-9223372036854775808) 9223372036854775807 text

/-- Reads a 64-bit unsigned integer. -/
def readUInt64 (text : String) : Except NumberError Int :=
  readWhole 0 18446744073709551615 text

end SeatBilling.Text
