import SeatBilling.Json.Read

/-!
# Decoding records straight from text

A record is decoded from its text in one pass, without building the document first, so a
complaint about a value carries the place where the decoder stood when it made it:

- a value of the wrong kind is read through (a scalar) or left unread (an array or an
  object), and the complaint stands where the decoder then is;
- a complaint about the record as a whole (a field given twice, a field missing) waits until
  the decoder has passed the blanks after it and the closing brace, if that comes next.

A record is an object whose keys name fields (a field may have other names too), or an array
holding the fields in order. Keys that name no field are passed over.
-/

namespace SeatBilling.Json

/-- What a decoder met where it expected something else. -/
inductive Unexpected where
  | bool (value : Bool)
  | unsigned (value : Nat)
  | signed (value : Int)
  | float (value : Binary64)
  | str (value : String)
  | unit
  | seq
  | map
  deriving DecidableEq, Repr

/-- A character as a debugging listing of a string shows it. -/
def debugChar (char : Char) : String :=
  if char == '"' then "\\\""
  else if char == '\\' then "\\\\"
  else if char == '\n' then "\\n"
  else if char == '\r' then "\\r"
  else if char == '\t' then "\\t"
  else if char == '\x00' then "\\0"
  else if char.toNat < 32 || char.toNat == 127 then
    "\\u" ++ "\x7b" ++ String.ofList (Nat.toDigits 16 char.toNat) ++ "\x7d"
  else char.toString

/-- A string quoted as a debugging listing shows it. -/
def debugString (text : String) : String :=
  "\"" ++ String.join (text.toList.map debugChar) ++ "\""

/-- How a complaint names what it met. -/
def Unexpected.describe : Unexpected → String
  | .bool value => "boolean `" ++ toString value ++ "`"
  | .unsigned value => "integer `" ++ toString value ++ "`"
  | .signed value => "integer `" ++ toString value ++ "`"
  | .float value => "floating point `" ++ value.text ++ "`"
  | .str value => "string " ++ debugString value
  | .unit => "null"
  | .seq => "sequence"
  | .map => "map"

/-- What a value is, as a complaint names it. -/
def Unexpected.ofValue : Json → Unexpected
  | .null => .unit
  | .bool value => .bool value
  | .int value => if value < 0 then .signed value else .unsigned value.toNat
  | .real value => .float value
  | .str value => .str value
  | .arr _ => .seq
  | .obj _ => .map

/-- The complaint about a value of the wrong kind. -/
def invalidType (found : Unexpected) (expected : String) : String :=
  "invalid type: " ++ found.describe ++ ", expected " ++ expected

/-- The complaint about a sequence too short for what it should hold. -/
def invalidLength (length : Nat) (expected : String) : String :=
  "invalid length " ++ toString length ++ ", expected " ++ expected

/-- A decoder's verdict on a well-formed value: the value, or a complaint with no place yet. -/
abbrev Verdict (α : Type) := Except String α

/-- Fails with a complaint placed where the decoder stands. -/
def complain {α : Type} (text : String) : Reading α := failHere (.custom text)

/-- Gives a verdict's value, or fails with its complaint placed where the decoder stands. -/
def settle {α : Type} : Verdict α → Reading α
  | .ok value => pure value
  | .error text => complain text

/-- Passes over what closes an array whose decoding was given up: the blanks, then a closing
bracket, or a comma and the blanks after it. -/
def passArrayEnd : Reading Unit := do
  match ← peekAfterBlank with
  | some 93 => skipByte
  | some 44 => skipByte; let _ ← peekAfterBlank
  | _ => pure ()

/-- Passes over what closes an object whose decoding was given up: the blanks, then a
closing brace. -/
def passObjectEnd : Reading Unit := do
  match ← peekAfterBlank with
  | some 125 => skipByte
  | _ => pure ()

/-- Complains about the value ahead, which is not what was `expected`: a scalar is read
through first; an array or an object is left unread. -/
def wrongKindAhead {α : Type} (expected : String) : Reading α := do
  match ← peekAfterBlank with
  | some 110 => skipByte; word [117, 108, 108]; complain (invalidType .unit expected)
  | some 116 => skipByte; word [114, 117, 101]; complain (invalidType (.bool true) expected)
  | some 102 => skipByte; word [97, 108, 115, 101]; complain (invalidType (.bool false) expected)
  | some 45 => skipByte; let number ← readNumber true; complain (invalidType (.ofValue number) expected)
  | some 34 => skipByte; let text ← readString; complain (invalidType (.str text) expected)
  | some 91 => complain (invalidType .seq expected)
  | some 123 => complain (invalidType .map expected)
  | some byte =>
    if isDigitByte byte then do
      let number ← readNumber false
      complain (invalidType (.ofValue number) expected)
    else failAhead .expectedValue
  | none => failAhead .eofInValue

/-- Reads a string. -/
def readText : Reading String := do
  match ← peekAfterBlank with
  | some 34 => skipByte; readString
  | some _ => wrongKindAhead "a string"
  | none => failAhead .eofInValue

/-- Reads `null`, as nothing, or else what `present` reads. -/
def readOptional {α : Type} (present : Reading α) : Reading (Option α) := do
  match ← peekAfterBlank with
  | some 110 => skipByte; word [117, 108, 108]; pure none
  | _ => some <$> present

/-- Reads a value of any kind that only a string may be: the string is judged by `judge`,
and a value of another kind is read and refused as not what was `expected`. -/
def readJudgedText {α : Type} (expected : String) (judge : String → Verdict α) : Reading α := do
  match ← peekAfterBlank with
  | none => failAhead .eofInValue
  | some 34 => skipByte; let text ← readString; settle (judge text)
  | some 91 => skipByte; passArrayEnd; complain (invalidType .seq expected)
  | some 123 => skipByte; passObjectEnd; complain (invalidType .map expected)
  | some byte =>
    if byte == 110 || byte == 116 || byte == 102 || byte == 45 || isDigitByte byte then
      wrongKindAhead expected
    else failAhead .expectedValue

/-! ## Records -/

/-- A field of a record decoded into a draft `σ`: its name and other names, whether it must
be given, whether the draft holds it already, and how its value is read into the draft. A
field that must be given may still be left out of an object when it `mayBeNull`: it then
stands as null, though an array must hold it. -/
structure Field (σ : Type) where
  name : String
  aliases : List String
  required : Bool
  isSet : σ → Bool
  read : σ → Reading σ
  mayBeNull : Bool := false

/-- A record: its name, its fields in order, the empty draft, and the record a complete
draft makes. -/
structure Record (σ α : Type) where
  name : String
  fields : List (Field σ)
  empty : σ
  finish : σ → α

/-- Whether a key names a field. -/
def Field.answersTo {σ : Type} (field : Field σ) (key : String) : Bool :=
  field.name == key || field.aliases.contains key

/-- The complaint about the first field that must be given and is not. -/
def Record.missing {σ α : Type} (record : Record σ α) (draft : σ) : Option String :=
  (record.fields.find? (fun field => field.required && !field.mayBeNull && !field.isSet draft)).map
    (fun field => "missing field `" ++ field.name ++ "`")

/-- Reads `action`; when the decoder keeps track of where it is (`traced`), a problem met
there is placed inside `segment`. -/
def within {α : Type} (traced : Bool) (segment : String) (action : Reading α) : Reading α :=
  if traced then
    tryCatch action fun error => throw { error with problem := .within segment error.problem }
  else action

/-- Reads the members of an object into a draft, up to its closing brace, `fuel` members at
most; a field given twice, or one missing at the end, is a complaint. A problem met after a
key, in its value, is placed inside that key when the decoder keeps track (`traced`). -/
def Record.members {σ α : Type} (record : Record σ α) (traced : Bool) :
    Nat → Bool → σ → Reading (Verdict σ)
  | 0, _, _ => failAhead .eofInObject
  | fuel + 1, first, draft => do
    if ← moreMembers first then
      skipByte
      let key ← readString
      match record.fields.find? (·.answersTo key) with
      | some field =>
        if field.isSet draft then return .error ("duplicate field `" ++ field.name ++ "`")
        let draft ← within traced key (do colon; field.read draft)
        record.members traced fuel false draft
      | none =>
        within traced key (do colon; skip)
        record.members traced fuel false draft
    else
      match record.missing draft with
      | some complaint => return .error complaint
      | none => return .ok draft

/-- What the record's fields held in an array are called in a complaint. -/
def Record.asSequence {σ α : Type} (record : Record σ α) : String :=
  let count := record.fields.length
  "struct " ++ record.name ++ " with " ++ toString count ++ (if count == 1 then " element" else " elements")

/-- Reads the items of an array into a draft, one per field in order; an array that ends
before a field that must be given is a complaint. A problem met at an item is placed inside
`[index]` when the decoder keeps track (`traced`). -/
def Record.items {σ α : Type} (record : Record σ α) (traced : Bool) :
    List (Field σ) → Nat → Bool → σ → Reading (Verdict σ)
  | [], _, _, draft => return .ok draft
  | field :: rest, index, first, draft => do
    let segment := "[" ++ toString index ++ "]"
    match ← within traced segment (do
        if ← moreItems first then return some (← field.read draft) else return none) with
    | some draft => record.items traced rest (index + 1) false draft
    | none =>
      if field.required then return .error (invalidLength index record.asSequence)
      else record.items traced rest (index + 1) first draft

/-- Reads a record. -/
def Record.read {σ α : Type} (record : Record σ α) (traced : Bool) : Reading α := do
  match ← peekAfterBlank with
  | none => failAhead .eofInValue
  | some 123 =>
    skipByte
    let verdict ← record.members traced ((← get).rest.length + 1) true record.empty
    passObjectEnd
    record.finish <$> settle verdict
  | some 91 =>
    skipByte
    match ← record.items traced record.fields 0 true record.empty with
    | .ok draft => closeArray; pure (record.finish draft)
    | .error complaint => passArrayEnd; complain complaint
  | some _ => wrongKindAhead ("struct " ++ record.name)

/-- Decodes what a cursor holds as a record, with nothing but blanks after it; `traced` says
whether problems inside values are placed inside their keys and items. -/
def Record.decodeAt {σ α : Type} (record : Record σ α) (traced : Bool) (cursor : Cursor) :
    Except ReadError α :=
  let reading : Reading α := do
    let value ← record.read traced
    match ← peekAfterBlank with
    | some _ => failAhead .trailingCharacters
    | none => pure value
  reading.runOn cursor

/-- Decodes a whole text as a record, with nothing but blanks after it; `traced` says whether
problems inside values are placed inside their keys and items. -/
def Record.decodeWith {σ α : Type} (record : Record σ α) (traced : Bool) (text : String) :
    Except ReadError α :=
  record.decodeAt traced (Cursor.start text)

/-- Decodes bytes as a record. Only the strings the record keeps must be UTF-8: what it passes
over is checked for its grammar alone. -/
def Record.decodeBytes {σ α : Type} (record : Record σ α) (bytes : List UInt8) :
    Except ReadError α :=
  record.decodeAt false (Cursor.ofBytes bytes)

/-- Decodes a whole text as a record. -/
def Record.decode {σ α : Type} (record : Record σ α) (text : String) : Except ReadError α :=
  record.decodeWith false text

/-- Decodes a whole text as a record, placing each problem met inside a value at its key or
item. -/
def Record.decodeTraced {σ α : Type} (record : Record σ α) (text : String) : Except ReadError α :=
  record.decodeWith true text

/-! ## Numbers -/

/-- The complaint about a value of the right kind outside the range `expected`. -/
def invalidValue (found : Unexpected) (expected : String) : String :=
  "invalid value: " ++ found.describe ++ ", expected " ++ expected

/-- Whether an integer fits in 32 signed bits. -/
def fitsInt32 (value : Int) : Bool := -2147483648 ≤ value && value ≤ 2147483647

/-- Judges a number read where a 32-bit integer is expected. -/
def judgeInt32 (number : Json) : Verdict Int :=
  match number with
  | .int value =>
    if fitsInt32 value then .ok value else .error (invalidValue (.ofValue number) "i32")
  | other => .error (invalidType (.ofValue other) "i32")

/-- Reads a whole number judged by `judge`; a value of another kind is not what was
`expected`. -/
def readJudgedNumber {α : Type} (expected : String) (judge : Json → Verdict α) : Reading α := do
  match ← peekAfterBlank with
  | some 45 => skipByte; let number ← readNumber true; settle (judge number)
  | some byte =>
    if isDigitByte byte then do
      let number ← readNumber false
      settle (judge number)
    else wrongKindAhead expected
  | none => failAhead .eofInValue

/-- Reads a 32-bit integer. -/
def readInt32 : Reading Int := readJudgedNumber "i32" judgeInt32

/-- Whether an integer fits in 64 signed bits. -/
def fitsInt64 (value : Int) : Bool := -9223372036854775808 ≤ value && value ≤ 9223372036854775807

/-- Judges a number read where a 64-bit integer is expected. -/
def judgeInt64 (number : Json) : Verdict Int :=
  match number with
  | .int value =>
    if fitsInt64 value then .ok value else .error (invalidValue (.ofValue number) "i64")
  | other => .error (invalidType (.ofValue other) "i64")

/-- Reads a 64-bit integer. -/
def readInt64 : Reading Int := readJudgedNumber "i64" judgeInt64

/-! ## Lists and choices -/

/-- Reads the strings of an array up to its closing bracket, `fuel` items at most; `kept`
holds those read, last first. -/
def textItems : Nat → Bool → List String → Reading (List String)
  | 0, _, _ => failAhead .eofInList
  | fuel + 1, first, kept => do
    if ← moreItems first then textItems fuel false ((← readText) :: kept)
    else pure kept.reverse

/-- Reads an array of strings. -/
def readTextList : Reading (List String) := do
  match ← peekAfterBlank with
  | some 91 =>
    skipByte
    let items ← textItems ((← get).rest.length + 1) true []
    closeArray
    pure items
  | some _ => wrongKindAhead "a sequence"
  | none => failAhead .eofInValue

/-- The complaint about a name that is none of the choices. -/
def unknownVariant (name : String) (names : List String) : String :=
  "unknown variant `" ++ name ++ "`, expected one of " ++
    ", ".intercalate (names.map fun choice => "`" ++ choice ++ "`")

/-- Reads one of the `names`: the name as a string, or an object whose one member has the
name as its key and `null` as its value. -/
def readChoice (names : List String) : Reading String := do
  match ← peekAfterBlank with
  | some 34 =>
    skipByte
    let name ← readString
    if names.contains name then pure name else complain (unknownVariant name names)
  | some 123 =>
    skipByte
    match ← peekAfterBlank with
    | some 34 =>
      skipByte
      let name ← readString
      unless names.contains name do complain (unknownVariant name names)
      colon
      match ← peekAfterBlank with
      | some 110 => skipByte; word [117, 108, 108]
      | _ => wrongKindAhead "unit"
      match ← peekAfterBlank with
      | some 125 => skipByte; pure name
      | some _ => failAhead .expectedValue
      | none => failAhead .eofInObject
    | some _ => failAhead .keyNotString
    | none => failAhead .eofInValue
  | some _ => wrongKindAhead "string or map"
  | none => failAhead .eofInValue

end SeatBilling.Json
