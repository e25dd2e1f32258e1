import SeatBilling.Database.Script
import SeatBilling.Ident.Uuid
import SeatBilling.Time.Rfc3339
import SeatBilling.Text.Blank

/-!
# Column values

A script gives each value of a row as a document; the server sends it in the binary form of
its column's type, and the client reads it back. `Value.ofJson` is the value the client ends
up with:

* `text`: a string as it is; any other document as its JSON text.
* `int4`, `int8`: a whole number that fits 64 bits, cut to the column's width; anything else 0.
* `bool`: a boolean; anything else false.
* `uuid`: a string that reads as an identifier; anything else the nil identifier.
* `timestamptz`: microseconds since 2000-01-01T00:00:00Z, rounded down, from an RFC 3339
  string or from whole unix seconds in the years -9999 to 9999; anything else is the unix
  epoch.
* `jsonb`: the document itself.
* `bytea`: the bytes a string writes two characters a byte, a last single character left
  over; a pair is two hexadecimal digits, or one digit beside a blank or after a plus sign
  (`-0` is zero too). A string with another pair, or anything else, gives no bytes.

A document `null` is SQL NULL, which is no value at all.
-/

namespace SeatBilling.Database

open SeatBilling.Time

/-- A value the client has read from a column. -/
inductive Value where
  | text (value : String)
  | int4 (value : Int)
  | int8 (value : Int)
  | bool (value : Bool)
  | uuid (value : Uuid)
  /-- Microseconds since 2000-01-01T00:00:00Z. -/
  | timestamptz (micros : Int)
  | jsonb (value : Json)
  | bytea (bytes : List UInt8)
  deriving Repr

/-- The unix time of 2000-01-01T00:00:00Z, from which timestamps count. -/
def timestampEpoch : Int := 946684800

/-- A whole number cut to a signed word of `bits` bits. -/
def wrapSigned (bits : Nat) (value : Int) : Int :=
  let size : Int := Int.pow 2 bits
  let half : Int := Int.pow 2 (bits - 1)
  (value + half) % size - half

/-- The 64-bit whole number a document holds, if it holds one. -/
def wholeOf? : Json → Option Int
  | .int value => if -Int.pow 2 63 ≤ value && value < Int.pow 2 63 then some value else none
  | _ => none

/-- The microseconds since 2000-01-01T00:00:00Z of a timestamp a script writes: an RFC 3339
string or whole unix seconds within the representable years, rounded down to the microsecond;
anything else stands for the unix epoch. -/
def timestampMicros (json : Json) : Int :=
  let moment := match json with
    | .str text => (Moment.ofRfc3339 text).toOption
    | .int seconds => Moment.ofUnixSeconds? seconds
    | _ => none
  ((moment.getD Moment.epoch).instant - timestampEpoch * nanosPerSecond).fdiv 1000

/-- Whether a character counts as a blank around a number: the Unicode blanks and the
separators U+001C to U+001F. -/
def isNumberBlank (char : Char) : Bool :=
  Text.isBlank char || (0x1C ≤ char.toNat && char.toNat ≤ 0x1F)

/-- The byte a pair of characters writes: two hexadecimal digits, or one digit beside a blank
or after a plus sign, or a zero after a minus sign. -/
def pairByte (first second : Char) : Option UInt8 :=
  match Uuid.digitValue first, Uuid.digitValue second with
  | some high, some low => some (16 * high + low).toUInt8
  | none, some low =>
    if first == '+' || isNumberBlank first || (first == '-' && low == 0) then some low.toUInt8
    else none
  | some high, none => if isNumberBlank second then some high.toUInt8 else none
  | none, none => none

/-- The bytes a text writes two characters a byte, a last single character left over; `none`
if a pair writes no byte. -/
def hexBytes : List Char → Option (List UInt8)
  | first :: second :: rest => do
    let byte ← pairByte first second
    let tail ← hexBytes rest
    pure (byte :: tail)
  | _ => some []

/-- The value a client reads for a document sent in a column of type `type`; `none` for SQL
NULL. -/
def Value.ofJson (type : ColumnType) : Json → Option Value
  | .null => none
  | json =>
    some <| match type with
      | .text => .text (json.getStr?.getD json.render)
      | .int4 => .int4 (wrapSigned 32 ((wholeOf? json).getD 0))
      | .int8 => .int8 ((wholeOf? json).getD 0)
      | .bool => .bool (json.getBool?.getD false)
      | .uuid => .uuid ((json.getStr?.bind Uuid.parse?).getD Uuid.nil)
      | .timestamptz => .timestamptz (timestampMicros json)
      | .jsonb => .jsonb json
      | .bytea => .bytea (((json.getStr?.map String.toList).bind hexBytes).getD [])

/-- The type of the column a value was read from. -/
def Value.type : Value → ColumnType
  | .text _ => .text
  | .int4 _ => .int4
  | .int8 _ => .int8
  | .bool _ => .bool
  | .uuid _ => .uuid
  | .timestamptz _ => .timestamptz
  | .jsonb _ => .jsonb
  | .bytea _ => .bytea

end SeatBilling.Database
