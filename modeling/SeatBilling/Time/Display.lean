import SeatBilling.Time.Rfc3339

/-!
# Moments as log lines write them

A log line writes a moment as its date, its time of day and its offset, separated by spaces:
`2026-01-31 0:00:00.0 +00:00:00`. The year has at least four digits (five with a minus sign),
the hour is not padded, and the fraction of the second keeps the fewest digits that show it
exactly, at least one. The offset is written with its sign, hours, minutes and seconds.
-/

namespace SeatBilling.Time

/-- The fraction of a second with the fewest digits that show it exactly, at least one. -/
def shortFraction (nanos : Nat) : String :=
  let digits := (padNumber 9 nanos).toList
  let kept := (digits.reverse.dropWhile (· == '0')).reverse
  if kept.isEmpty then "0" else String.ofList kept

/-- A year with at least four digits, after a minus sign when it is negative. -/
def yearText (year : Int) : String :=
  if year < 0 then "-" ++ padNumber 4 year.natAbs else padNumber 4 year.toNat

/-- An offset as its sign, hours, minutes and seconds. -/
def offsetText (offset : Int) : String :=
  let magnitude := offset.natAbs
  (if offset < 0 then "-" else "+") ++ padNumber 2 (magnitude / 3600) ++ ":" ++
    padNumber 2 (magnitude % 3600 / 60) ++ ":" ++ padNumber 2 (magnitude % 60)

/-- A moment as log lines write it. -/
def Moment.displayText (moment : Moment) : String :=
  let date := moment.date
  yearText date.year ++ "-" ++ padNumber 2 date.month ++ "-" ++ padNumber 2 date.day ++ " " ++
    toString moment.hour ++ ":" ++ padNumber 2 moment.minute ++ ":" ++ padNumber 2 moment.second ++
    "." ++ shortFraction moment.nanosecond ++ " " ++ offsetText moment.offset

end SeatBilling.Time
