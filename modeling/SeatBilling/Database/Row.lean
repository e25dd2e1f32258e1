import SeatBilling.Database.Value
import SeatBilling.ErrorChain

/-!
# Rows and why reading them fails

A row is the values of a statement's result, each under its column's name. A field is read
from a row by name or by position, as a value of one type, required or optional:

* a name no column has, or a position past the last column, is an error;
* SQL NULL read as a required field is an error; read as an optional one it is no value;
* a value read as another type than its column's is an error that names both types.

`DbError` is every way a database call can fail, and `DbError.message` its text.
-/

namespace SeatBilling.Database

/-- Why a database call failed. -/
inductive DbError where
  /-- The server answered with an error. -/
  | server (error : ServerError)
  /-- The server ended the connection instead of answering. -/
  | connectionClosed
  /-- A statement that must give a row gave none. -/
  | rowNotFound
  | columnNotFound (name : String)
  | columnIndexOutOfBounds (index : Nat) (count : Nat)
  /-- A field could not be read; `place` is how the field was named. -/
  | columnDecode (place : String) (why : String)
  deriving Repr

namespace DbError

/-- The text of a database error. -/
def message : DbError → String
  | .server error => "error returned from database: " ++ error.message
  | .connectionClosed => "error communicating with database: expected to read 5 bytes, got 0 bytes at EOF"
  | .rowNotFound => "no rows returned by a query that expected to return at least one row"
  | .columnNotFound name => "no column found for name: " ++ name
  | .columnIndexOutOfBounds index count =>
    "column index out of bounds: the len is " ++ toString count ++ ", but the index is " ++ toString index
  | .columnDecode place why => "error occurred while decoding column " ++ place ++ ": " ++ why

/-- The error with its causes: the server's own message under a server error, the broken
stream under a lost connection, the reason under a field that cannot be read. -/
def chain (error : DbError) : ErrorChain :=
  match error with
  | .server inner => ⟨error.message, [inner.message]⟩
  | .connectionClosed => ⟨error.message, ["expected to read 5 bytes, got 0 bytes at EOF"]⟩
  | .columnDecode _ why => ⟨error.message, [why]⟩
  | _ => .plain error.message

/-- Whether the error is the server's report that a write broke the unique constraint
`constraint`. -/
def breaksUnique (error : DbError) (constraint : String) : Bool :=
  match error with
  | .server error => error.code == uniqueViolation && error.constraint == some constraint
  | _ => false

end DbError

/-- How a field is named: by its column's name or by its position. -/
inductive Place where
  | named (name : String)
  | position (index : Nat)
  deriving Repr

/-- How an error names a field: a name in double quotes, or the bare position. -/
def Place.text : Place → String
  | .named name => "\"" ++ name ++ "\""
  | .position index => toString index

/-- A row: each column with its value, `none` for SQL NULL. -/
abbrev Row := List (Column × Option Value)

/-- The row a script's values make under a statement's columns; a value the script leaves
out is NULL. -/
def Row.ofJson (columns : List Column) (values : List Json) : Row :=
  columns.zipIdx.map fun (column, index) =>
    (column, (values.getD index .null) |> Value.ofJson column.type)

/-- The name of the type a field of column type `type` is read as. -/
def readerName : ColumnType → String
  | .text => "alloc::string::String"
  | .int4 => "i32"
  | .int8 => "i64"
  | .bool => "bool"
  | .uuid => "uuid::Uuid"
  | .timestamptz => "time::offset_date_time::OffsetDateTime"
  | .jsonb => "serde_json::value::Value"
  | .bytea => "alloc::vec::Vec<u8>"

/-- The name of the type an optional field is read as. -/
def optionalName (type : ColumnType) : String := "core::option::Option<" ++ readerName type ++ ">"

/-- Why a value of column type `found` cannot be read as a field of the type named `reader`,
whose own column type is `wanted`. -/
def mismatch (reader : String) (wanted found : ColumnType) : String :=
  "mismatched types; Rust type `" ++ reader ++ "` (as SQL type `" ++ wanted.sqlName ++
    "`) is not compatible with SQL type `" ++ found.sqlName ++ "`"

/-- Why SQL NULL cannot be read as a required field. -/
def unexpectedNull : String := "unexpected null; try decoding as an `Option`"

namespace Row

/-- The value of a field; when several columns share a name, the last one counts. -/
def value (row : Row) (place : Place) : Except DbError (Option Value) :=
  match place with
  | .named name =>
    match (row.filter (·.1.name == name)).getLast? with
    | some (_, value) => .ok value
    | none => .error (.columnNotFound name)
  | .position index =>
    match row[index]? with
    | some (_, value) => .ok value
    | none => .error (.columnIndexOutOfBounds index row.length)

/-- A required field of column type `wanted`, picked out of its value by `pick`. -/
def required {α : Type} (row : Row) (place : Place) (wanted : ColumnType) (pick : Value → Option α) :
    Except DbError α := do
  match ← row.value place with
  | none => throw (.columnDecode place.text unexpectedNull)
  | some value =>
    match pick value with
    | some picked => pure picked
    | none => throw (.columnDecode place.text (mismatch (readerName wanted) wanted value.type))

/-- An optional field of column type `wanted`, picked out of its value by `pick`. -/
def optional {α : Type} (row : Row) (place : Place) (wanted : ColumnType) (pick : Value → Option α) :
    Except DbError (Option α) := do
  match ← row.value place with
  | none => pure none
  | some value =>
    match pick value with
    | some picked => pure (some picked)
    | none => throw (.columnDecode place.text (mismatch (optionalName wanted) wanted value.type))

end Row

namespace Value

/-- The text of a text value. -/
def text? : Value → Option String
  | .text value => some value
  | _ => none

/-- The number of a 32-bit value. -/
def int4? : Value → Option Int
  | .int4 value => some value
  | _ => none

/-- The number of a 64-bit value. -/
def int8? : Value → Option Int
  | .int8 value => some value
  | _ => none

/-- The truth of a boolean value. -/
def bool? : Value → Option Bool
  | .bool value => some value
  | _ => none

/-- The identifier of an identifier value. -/
def uuid? : Value → Option Uuid
  | .uuid value => some value
  | _ => none

/-- The microseconds of a timestamp value. -/
def micros? : Value → Option Int
  | .timestamptz micros => some micros
  | _ => none

/-- The document of a document value. -/
def jsonb? : Value → Option Json
  | .jsonb value => some value
  | _ => none

/-- The bytes of a byte-string value. -/
def bytea? : Value → Option (List UInt8)
  | .bytea bytes => some bytes
  | _ => none

end Value

end SeatBilling.Database
