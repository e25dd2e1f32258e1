import SeatBilling.Json.Value
import SeatBilling.Arith.Checked
import SeatBilling.Time.Rfc3339

/-!
# Reading the fields of a command

A console command is a JSON object. Its fields are read by name, and a field that is missing
or of the wrong kind refuses the command with a fixed message:

- `missing field 'X'` when a required field is absent or `null`;
- `field 'X' must be a string`;
- `field 'X' must be a 64-bit integer` for a number field that is not a whole number in the
  signed 64-bit range, and `field 'X' must be a 32-bit integer` for one in that range but
  outside the 32-bit range, where the field is 32-bit;
- `bad timestamp` for a time that is neither RFC 3339 text nor whole unix seconds in the
  calendar.
-/

namespace SeatBilling.Console

open SeatBilling.Time

/-- A command refused, with why. -/
abbrev Refusal := String

/-- The value of a field, if present and not `null`. -/
def present? (command : Json) (key : String) : Option Json :=
  match command.field? key with
  | some .null => none
  | other => other

/-- The refusal for a missing field. -/
def missingField (key : String) : Refusal := "missing field '" ++ key ++ "'"

/-- A string. -/
def asText (key : String) : Json → Except Refusal String
  | .str value => .ok value
  | _ => .error ("field '" ++ key ++ "' must be a string")

/-- A whole number in the signed 64-bit range. -/
def asInt64 (key : String) : Json → Except Refusal Int
  | .int value =>
    if Arith.fitsInt64 value then .ok value else .error ("field '" ++ key ++ "' must be a 64-bit integer")
  | _ => .error ("field '" ++ key ++ "' must be a 64-bit integer")

/-- A whole number in the signed 32-bit range. -/
def asInt32 (key : String) (value : Json) : Except Refusal Int := do
  let wide ← asInt64 key value
  if Arith.fitsInt32 wide then pure wide else throw ("field '" ++ key ++ "' must be a 32-bit integer")

/-- A time: RFC 3339 text, or whole unix seconds. -/
def asMoment : Json → Except Refusal Moment
  | .str text =>
    match Moment.ofRfc3339 text with
    | .ok moment => .ok moment
    | .error _ => .error "bad timestamp"
  | .int seconds =>
    match Moment.ofUnixSeconds? seconds with
    | some moment => if Arith.fitsInt64 seconds then .ok moment else .error "bad timestamp"
    | none => .error "bad timestamp"
  | _ => .error "bad timestamp"

/-- A required field, read by `read`. -/
def required {α : Type} (command : Json) (key : String) (read : String → Json → Except Refusal α) :
    Except Refusal α :=
  match present? command key with
  | some value => read key value
  | none => .error (missingField key)

/-- An optional field, read by `read`. -/
def optional {α : Type} (command : Json) (key : String) (read : String → Json → Except Refusal α) :
    Except Refusal (Option α) :=
  match present? command key with
  | some value => some <$> read key value
  | none => .ok none

/-- A required string field. -/
def text (command : Json) (key : String) : Except Refusal String := required command key asText

/-- An optional string field. -/
def text? (command : Json) (key : String) : Except Refusal (Option String) := optional command key asText

/-- A required signed 64-bit field. -/
def int64 (command : Json) (key : String) : Except Refusal Int := required command key asInt64

/-- An optional signed 64-bit field. -/
def int64? (command : Json) (key : String) : Except Refusal (Option Int) := optional command key asInt64

/-- A required signed 32-bit field. -/
def int32 (command : Json) (key : String) : Except Refusal Int := required command key asInt32

/-- An optional signed 32-bit field. -/
def int32? (command : Json) (key : String) : Except Refusal (Option Int) := optional command key asInt32

/-- A required time field. -/
def moment (command : Json) (key : String) : Except Refusal Moment :=
  required command key fun _ value => asMoment value

/-- An optional time field. -/
def moment? (command : Json) (key : String) : Except Refusal (Option Moment) :=
  optional command key fun _ value => asMoment value

/-- An optional truth field. -/
def flag? (command : Json) (key : String) : Except Refusal (Option Bool) :=
  optional command key fun key value =>
    match value with
    | .bool flag => .ok flag
    | _ => .error ("field '" ++ key ++ "' must be a boolean")

end SeatBilling.Console
