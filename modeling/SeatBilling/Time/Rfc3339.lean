import SeatBilling.Time.Moment

/-!
# RFC 3339 timestamps

Reading and writing moments as `YYYY-MM-DDTHH:MM:SS[.fraction](Z|±HH:MM)`.

Reading checks the shape first, field by field from the left, and only then the ranges of
the fields, so a text with a malformed field and an out-of-range one reports the malformed
field. A month `00` is malformed rather than out of range, since months are read as numbers
from one. Date and time may be separated by any one byte, not only `T`; the zone letter `Z`
may be lower case. A fraction has at least
one digit; digits past the ninth are read and dropped. A leap second `:60` is accepted only
as the last second of a month in UTC and reads as `:59.999999999`.

Writing gives four digits of year, the fraction with its trailing zeros removed (nothing
when it is zero), and `Z` for offset zero. It refuses years outside 0 to 9999.
-/

namespace SeatBilling.Time

/-- Why a text is no RFC 3339 timestamp. -/
inductive TimeTextError where
  /-- A field does not have its digits or its sign. -/
  | malformed (field : String)
  /-- A separator is not the one expected. -/
  | separator
  /-- Text follows the timestamp. -/
  | trailing
  /-- A field has its digits but names no such value. -/
  | outOfRange (field : String)
  deriving DecidableEq, Repr

/-- The message of a reading error. -/
def TimeTextError.message : TimeTextError → String
  | .malformed field => "the '" ++ field ++ "' component could not be parsed"
  | .separator => "a character literal was not valid"
  | .trailing => "unexpected trailing characters; the end of input was expected"
  | .outOfRange field => field ++ " was not in range"

namespace Rfc3339

/-- The value of a list of decimal digits. -/
def digitsValue (digits : List Char) : Nat :=
  digits.foldl (fun value digit => value * 10 + (digit.toNat - '0'.toNat)) 0

/-- Exactly `count` leading decimal digits, read as a number, and the rest. -/
def exactDigits (count : Nat) (input : List Char) : Option (Nat × List Char) :=
  let taken := input.take count
  if taken.length == count && taken.all Char.isDigit then
    some (digitsValue taken, input.drop count)
  else
    none

/-- The leading run of decimal digits and the rest. -/
def digitRun (input : List Char) : List Char × List Char :=
  (input.takeWhile Char.isDigit, input.dropWhile Char.isDigit)

/-- Nanoseconds of a fraction's digits: the first nine count, later ones are dropped. -/
def fractionNanos (digits : List Char) : Nat :=
  digitsValue ((digits.take 9) ++ List.replicate (9 - digits.length) '0')

/-- One expected field of digits. -/
def field (count : Nat) (name : String) (input : List Char) :
    Except TimeTextError (Nat × List Char) :=
  match exactDigits count input with
  | some result => .ok result
  | none => .error (.malformed name)

/-- One expected separator, in either of two spellings. -/
def separator (spelling otherSpelling : Char) : List Char → Except TimeTextError (List Char)
  | c :: rest => if c == spelling || c == otherSpelling then .ok rest else .error .separator
  | [] => .error .separator

/-- The separator of date and time: any one byte. A character of several bytes leaves the
rest of its bytes where the hour should start. -/
def dateTimeSeparator : List Char → Except TimeTextError (List Char)
  | c :: rest => if c.utf8Size == 1 then .ok rest else .error (.malformed "hour")
  | [] => .error (.malformed "separator")

/-- The optional fraction of a second, as nanoseconds. -/
def fraction : List Char → Except TimeTextError (Nat × List Char)
  | '.' :: rest =>
    let (digits, after) := digitRun rest
    if digits.isEmpty then .error (.malformed "subsecond") else .ok (fractionNanos digits, after)
  | input => .ok (0, input)

/-- The zone: `Z`, or a sign with hours (at most 23) and minutes, as seconds east of UTC. -/
def zone : List Char → Except TimeTextError (Int × List Char)
  | c :: rest =>
    if c == 'Z' || c == 'z' then .ok (0, rest)
    else if c == '+' || c == '-' then do
      let (hours, rest) ← match exactDigits 2 rest with
        | some (hours, rest) => if hours ≤ 23 then pure (hours, rest) else throw (.malformed "offset hour")
        | none => throw (.malformed "offset hour")
      let rest ← separator ':' ':' rest
      let (minutes, rest) ← field 2 "offset minute" rest
      if minutes > 59 then throw (.outOfRange "offset minute")
      let magnitude : Int := (hours : Int) * 3600 + (minutes : Int) * 60
      pure (if c == '-' then -magnitude else magnitude, rest)
    else .error (.malformed "offset hour")
  | [] => .error (.malformed "offset hour")

/-- Whether a moment is the last nanosecond of a month in UTC, where a leap second may stand. -/
def endsMonthInUtc (moment : Moment) : Bool :=
  let utc := moment.toUtc
  utc.nanosecond == 999999999 && utc.hour == 23 && utc.minute == 59 && utc.second == 59 &&
    utc.date.day == daysInMonth utc.date.year utc.date.month

end Rfc3339

open Rfc3339 in
/-- Reads an RFC 3339 timestamp. -/
def Moment.ofRfc3339 (text : String) : Except TimeTextError Moment := do
  let input := text.toList
  let (year, input) ← field 4 "year" input
  let input ← separator '-' '-' input
  let (month, input) ← field 2 "month" input
  if month == 0 then throw (.malformed "month")
  let input ← separator '-' '-' input
  let (day, input) ← field 2 "day" input
  let input ← dateTimeSeparator input
  let (hour, input) ← field 2 "hour" input
  let input ← separator ':' ':' input
  let (minute, input) ← field 2 "minute" input
  let input ← separator ':' ':' input
  let (second, input) ← field 2 "second" input
  let (nanos, input) ← fraction input
  let (offset, input) ← zone input
  unless input.isEmpty do throw .trailing
  let leap := second == 60
  let second := if leap then 59 else second
  let nanos := if leap then 999999999 else nanos
  unless 1 ≤ month && month ≤ 12 do throw (.outOfRange "month")
  unless 1 ≤ day && day ≤ daysInMonth year month do throw (.outOfRange "day")
  unless hour ≤ 23 do throw (.outOfRange "hour")
  unless minute ≤ 59 do throw (.outOfRange "minute")
  unless second ≤ 59 do throw (.outOfRange "second")
  let days := CivilDate.toDays ⟨year, month, day⟩
  let wall := days * nanosPerDay +
    (((hour * 60 + minute) * 60 + second : Nat) : Int) * nanosPerSecond + (nanos : Int)
  let moment : Moment := ⟨wall, offset⟩
  if leap && !(endsMonthInUtc moment) then throw (.outOfRange "second")
  return moment

/-- A number written with at least `width` digits, padded with zeros on the left. -/
def padNumber (width value : Nat) : String :=
  let digits := toString value
  String.ofList (List.replicate (width - digits.length) '0') ++ digits

/-- The fraction of a second after its point, without trailing zeros; empty for zero. -/
def fractionText (nanos : Nat) : String :=
  if nanos == 0 then ""
  else
    let digits := (padNumber 9 nanos).toList
    "." ++ String.ofList (digits.reverse.dropWhile (· == '0')).reverse

/-- The zone of an offset: `Z` for zero, else its sign, hours and minutes. -/
def zoneText (offset : Int) : String :=
  if offset == 0 then "Z"
  else
    let magnitude := offset.natAbs
    (if offset < 0 then "-" else "+") ++ padNumber 2 (magnitude / 3600) ++ ":" ++
      padNumber 2 (magnitude % 3600 / 60)

/-- Writes a moment as an RFC 3339 timestamp; `none` for a year outside 0 to 9999, or an offset
of 24 hours or more or with seconds. -/
def Moment.rfc3339? (moment : Moment) : Option String :=
  let date := moment.date
  if date.year < 0 || date.year > 9999 || moment.offset.natAbs / 3600 > 23 || moment.offset % 60 != 0 then
    none
  else
    some (padNumber 4 date.year.toNat ++ "-" ++ padNumber 2 date.month ++ "-" ++ padNumber 2 date.day ++
      "T" ++ padNumber 2 moment.hour ++ ":" ++ padNumber 2 moment.minute ++ ":" ++
      padNumber 2 moment.second ++ fractionText moment.nanosecond ++ zoneText moment.offset)

end SeatBilling.Time
