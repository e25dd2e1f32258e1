import SeatBilling.Text.Blank

/-!
# Cron schedules

A schedule names the moments a job runs. It is written as six or seven fields: seconds,
minutes, hours, days of the month, months, days of the week and, optionally, years; or as a
shorthand (`@yearly` or `@annually`, `@monthly`, `@weekly`, `@daily`, `@hourly`), which stands
for six fields starting at second zero. Letters may be of either case, and blanks around the
text are dropped.

Before the fields are split, the names of days (`SUN`…`SAT`, Sunday being 0, or 7 after a
hyphen) and of months (`JAN`…`DEC`) are replaced by their numbers wherever they stand in the
text, so a name is a number in any field, and a longer word holding one (`JANUARY`) is not a
number at all. Fields are separated by runs of blanks.

A field is `*` or `?` (every value), or a list of parts separated by commas, empty parts
passed over. A part is a value, a range `low-high` with `low ≤ high`, or a value or range (or
`*`) followed by `/step` with a step of at least one. Values are whole numbers, a plus sign
allowed before them, within the field's range; days of the week run from 0 to 7. The day of
the month may also be `L` (the last day) or `nW` (the weekday nearest day `n`); the day of the
week may be `L`, `nL` (the last such day of the month) or `n#k` (the `k`-th such day, `k` from
1 to 5). Years run from 1 to 5000.
-/

namespace SeatBilling.Cron

/-- The fields of a schedule, in order. -/
inductive TimeField where
  | seconds
  | minutes
  | hours
  | daysOfMonth
  | months
  | daysOfWeek
  | years
  deriving DecidableEq, Repr

namespace TimeField

/-- The least value of a field. -/
def least : TimeField → Nat
  | .seconds | .minutes | .hours | .daysOfWeek => 0
  | .daysOfMonth | .months | .years => 1

/-- The greatest value of a field. -/
def greatest : TimeField → Nat
  | .seconds | .minutes => 59
  | .hours => 23
  | .daysOfMonth => 31
  | .months => 12
  | .daysOfWeek => 7
  | .years => 5000

/-- Whether a value lies in the field's range. -/
def holds (field : TimeField) (value : Nat) : Bool := field.least ≤ value && value ≤ field.greatest

/-- Whether the field may name the last day (`L`). -/
def allowsLast : TimeField → Bool
  | .daysOfMonth | .daysOfWeek => true
  | _ => false

/-- Whether the field may name the weekday nearest a day (`nW`). -/
def allowsNearestWeekday : TimeField → Bool
  | .daysOfMonth => true
  | _ => false

/-- Whether the field may name the `k`-th such day of the month (`n#k`). -/
def allowsOccurrence : TimeField → Bool
  | .daysOfWeek => true
  | _ => false

end TimeField

/-- One part of a field. -/
inductive Part where
  /-- Every value of the field. -/
  | every
  /-- One value. -/
  | value (value : Nat)
  /-- The last day of the month. -/
  | last
  /-- The last such day of the week in the month. -/
  | lastOf (day : Nat)
  /-- The `occurrence`-th such day of the week in the month. -/
  | occurrence (day : Nat) (occurrence : Nat)
  /-- The weekday nearest a day of the month. -/
  | nearestWeekday (day : Nat)
  /-- The values from `low` to `high`. -/
  | range (low high : Nat)
  /-- The values from `low` to `high`, every `step`-th of them. -/
  | stepped (low high step : Nat)
  deriving DecidableEq, Repr

/-- A schedule: the parts of each of its fields, in order. -/
structure Schedule where
  fields : List (List Part)
  deriving DecidableEq, Repr

/-! ## Numbers and parts -/

/-- The value of a run of decimal digits. -/
def digitsValue (digits : List Char) : Nat :=
  digits.foldl (fun value digit => value * 10 + (digit.toNat - '0'.toNat)) 0

/-- Reads a whole number no greater than `bound`: an optional plus sign, then at least one
decimal digit and nothing else. -/
def readBounded (bound : Nat) (text : String) : Option Nat :=
  let digits := match text.toList with
    | '+' :: rest => rest
    | chars => chars
  if digits.isEmpty || !digits.all Char.isDigit then none
  else
    let value := digitsValue digits
    if value ≤ bound then some value else none

/-- Reads a value as a field holds it: a 16-bit whole number. -/
def readNumber (text : String) : Option Nat := readBounded 65535 text

/-- Reads a value of the field. -/
def readValue (field : TimeField) (text : String) : Option Nat := do
  let value ← readNumber text
  if field.holds value then some value else none

/-- Reads the values a step runs over: `*` for the whole range, `low` up to the field's
greatest value, or `low-high`. -/
def readStepBounds (field : TimeField) (text : String) : Option (Nat × Nat) :=
  match text.splitOn "-" with
  | ["*"] => some (field.least, field.greatest)
  | [lowText] => (readValue field lowText).map fun low => (low, field.greatest)
  | [lowText, highText] => do
    let low ← readValue field lowText
    let high ← readValue field highText
    some (low, high)
  | _ => none

/-- Reads `low/step`, `low-high/step` or `*/step`. -/
def readStepped (field : TimeField) (text : String) : Option Part :=
  match text.splitOn "/" with
  | [rangeText, stepText] => do
    let step ← readNumber stepText
    if step == 0 then none
    let (low, high) ← readStepBounds field rangeText
    if low ≤ high then some (.stepped low high step) else none
  | _ => none

/-- Reads `low-high`. -/
def readRange (field : TimeField) (text : String) : Option Part :=
  match text.splitOn "-" with
  | [lowText, highText] => do
    let low ← readValue field lowText
    let high ← readValue field highText
    if low ≤ high then some (.range low high) else none
  | _ => none

/-- Reads `nW`. -/
def readNearestWeekday (field : TimeField) (text : String) : Option Part :=
  if !field.allowsNearestWeekday then none
  else
    match text.splitOn "W" with
    | [dayText, ""] => (readValue field dayText).map Part.nearestWeekday
    | _ => none

/-- Reads a value, `L`, `nL` or `n#k`. -/
def readSingle (field : TimeField) (text : String) : Option Part :=
  if text == "L" then (if field.allowsLast then some .last else none)
  else
    match text.splitOn "#" with
    | [valueText] =>
      if valueText.endsWith "L" then
        if field.allowsLast then
          (readValue field (String.ofList valueText.toList.dropLast)).map Part.lastOf
        else none
      else (readValue field valueText).map Part.value
    | [valueText, countText] => do
      if !field.allowsOccurrence then none
      let day ← readValue field valueText
      let count ← readBounded 255 countText
      if 1 ≤ count && count ≤ 5 then some (.occurrence day count) else none
    | _ => none

/-- Reads one part of a field: a step if it has a slash, else a range if it has a hyphen, else
a nearest weekday if it has a `W`, else a single value. -/
def readPart (field : TimeField) (text : String) : Option Part :=
  if text.contains '/' then readStepped field text
  else if text.contains '-' then readRange field text
  else if text.contains 'W' then readNearestWeekday field text
  else readSingle field text

/-- Reads a field: `*` or `?`, or its parts separated by commas, empty ones passed over. -/
def readField (field : TimeField) (text : String) : Option (List Part) :=
  if text == "*" || text == "?" then some [.every]
  else ((text.splitOn ",").filter (· != "")).mapM (readPart field)

/-! ## Schedules -/

/-- The six fields a shorthand stands for, from second zero. -/
def shorthand? (text : String) : Option String :=
  match text.toLower with
  | "@yearly" | "@annually" => some "0 0 0 1 1 *"
  | "@monthly" => some "0 0 0 1 * *"
  | "@weekly" => some "0 0 0 * * 0"
  | "@daily" => some "0 0 0 * * *"
  | "@hourly" => some "0 0 * * * *"
  | _ => none

/-- The names of days and months with the numbers that replace them, in the order they are
replaced; Sunday after a hyphen is 7, so that a range may end with it. -/
def nameNumbers : List (String × String) :=
  [("-SUN", "-7"), ("SUN", "0"), ("MON", "1"), ("TUE", "2"), ("WED", "3"), ("THU", "4"),
    ("FRI", "5"), ("SAT", "6"), ("JAN", "1"), ("FEB", "2"), ("MAR", "3"), ("APR", "4"),
    ("MAY", "5"), ("JUN", "6"), ("JUL", "7"), ("AUG", "8"), ("SEP", "9"), ("OCT", "10"),
    ("NOV", "11"), ("DEC", "12")]

/-- The text with every name of a day or month replaced by its number. -/
def replaceNames (text : String) : String :=
  nameNumbers.foldl (fun current (name, number) => current.replace name number) text

/-- The words of a text: its runs of characters between blanks. -/
def words (text : String) : List String :=
  let step := fun (state : List String × List Char) (char : Char) =>
    if Text.isBlank char then
      if state.2.isEmpty then state else (String.ofList state.2.reverse :: state.1, [])
    else (state.1, char :: state.2)
  let (done, current) := text.toList.foldl step ([], [])
  (if current.isEmpty then done else String.ofList current.reverse :: done).reverse

/-- The fields in order, the years last. -/
def fieldOrder : List TimeField :=
  [.seconds, .minutes, .hours, .daysOfMonth, .months, .daysOfWeek, .years]

/-- Reads a schedule. -/
def Schedule.parse? (text : String) : Option Schedule := do
  let trimmed := Text.trimBlank text.toUpper
  if trimmed.isEmpty then none
  let expanded := (shorthand? trimmed).getD trimmed
  let fields := words (replaceNames expanded)
  if fields.length < 6 || 7 < fields.length then none
  let parts ← (fieldOrder.zip fields).mapM fun (field, fieldText) => readField field fieldText
  return ⟨parts⟩

end SeatBilling.Cron
