import SeatBilling.Number.Shortest

/-!
# JSON values

`Json` is a JSON document. An object keeps its members as a list, in the order they were
written, and `Json.render` writes them in that order; `Json.sortKeys` puts every object's
members in the order of their keys' bytes, which is the order the program's answers and
request bodies use.

Numbers come in two kinds, as a reader of JSON text tells them apart: `int` holds a number
written without fraction or exponent that fits a 64-bit word, signed or unsigned; `real`
holds any other number as the double it reads as.
-/

namespace SeatBilling

/-- A JSON document. -/
inductive Json where
  /-- `null`. -/
  | null
  /-- `true` or `false`. -/
  | bool (value : Bool)
  /-- A whole number that fits a 64-bit word. -/
  | int (value : Int)
  /-- Any other number, as a double. -/
  | real (value : Binary64)
  /-- A string. -/
  | str (value : String)
  /-- An array. -/
  | arr (items : List Json)
  /-- An object, its members in order. -/
  | obj (members : List (String × Json))
  deriving Repr, Inhabited

namespace Json

/-- The value of the first member named `key`, if the document is an object that has one. -/
def field? (document : Json) (key : String) : Option Json :=
  match document with
  | .obj members => (members.find? (fun member => member.1 == key)).map Prod.snd
  | _ => none

/-- The string the document is, if it is one. -/
def getStr? : Json → Option String
  | .str value => some value
  | _ => none

/-- The whole number the document is, if it is one. -/
def getInt? : Json → Option Int
  | .int value => some value
  | _ => none

/-- The truth value the document is, if it is one. -/
def getBool? : Json → Option Bool
  | .bool value => some value
  | _ => none

/-- The items of the document, if it is an array. -/
def getArr? : Json → Option (List Json)
  | .arr items => some items
  | _ => none

/-- Whether the document is `null`. -/
def isNull : Json → Bool
  | .null => true
  | _ => false

/-- An optional string as a document: `null` for none. -/
def ofOptStr : Option String → Json
  | some value => .str value
  | none => .null

/-- An optional whole number as a document: `null` for none. -/
def ofOptInt : Option Int → Json
  | some value => .int value
  | none => .null

/-- Puts a member into a list ordered by key, replacing a member of the same key. -/
def insertSorted (key : String) (value : Json) : List (String × Json) → List (String × Json)
  | [] => [(key, value)]
  | (otherKey, otherValue) :: rest =>
    if key < otherKey then (key, value) :: (otherKey, otherValue) :: rest
    else if key == otherKey then (key, value) :: rest
    else (otherKey, otherValue) :: insertSorted key value rest

/-- The members ordered by key; of two members with one key, the later one stays. -/
def sortMembers (members : List (String × Json)) : List (String × Json) :=
  members.foldl (fun sorted member => insertSorted member.1 member.2 sorted) []

mutual

/-- Every object of the document with its members ordered by key. -/
def sortKeys : Json → Json
  | .arr items => .arr (sortKeysList items)
  | .obj members => .obj (sortMembers (sortKeysMembers members))
  | other => other

/-- `sortKeys` on each item. -/
def sortKeysList : List Json → List Json
  | [] => []
  | item :: rest => sortKeys item :: sortKeysList rest

/-- `sortKeys` on each member's value. -/
def sortKeysMembers : List (String × Json) → List (String × Json)
  | [] => []
  | (key, value) :: rest => (key, sortKeys value) :: sortKeysMembers rest

end

/-- The four lowercase hexadecimal digits of a code unit. -/
def hex4 (code : Nat) : String :=
  let digit (value : Nat) : Char :=
    if value < 10 then Char.ofNat ('0'.toNat + value) else Char.ofNat ('a'.toNat + value - 10)
  String.ofList [digit (code / 4096 % 16), digit (code / 256 % 16), digit (code / 16 % 16), digit (code % 16)]

/-- A character as it is written inside a quoted string: the quote, the backslash and the
control characters are escaped, with the short escapes where JSON has them. -/
def escapeChar (c : Char) : String :=
  if c == '"' then "\\\""
  else if c == '\\' then "\\\\"
  else if c == '\n' then "\\n"
  else if c == '\r' then "\\r"
  else if c == '\t' then "\\t"
  else if c.toNat == 8 then "\\b"
  else if c.toNat == 12 then "\\f"
  else if c.toNat < 32 then "\\u" ++ hex4 c.toNat
  else String.singleton c

/-- A string written with quotes and escapes. -/
def quote (text : String) : String :=
  "\"" ++ String.join (text.toList.map escapeChar) ++ "\""

mutual

/-- The document written compactly: no blanks, members in their order. -/
def render : Json → String
  | .null => "null"
  | .bool true => "true"
  | .bool false => "false"
  | .int value => toString value
  | .real value => value.text
  | .str value => quote value
  | .arr items => "[" ++ renderItems items ++ "]"
  | .obj members => "\x7b" ++ renderMembers members ++ "\x7d"

/-- The items of an array, comma separated. -/
def renderItems : List Json → String
  | [] => ""
  | [item] => render item
  | item :: rest => render item ++ "," ++ renderItems rest

/-- The members of an object, comma separated. -/
def renderMembers : List (String × Json) → String
  | [] => ""
  | [(key, value)] => quote key ++ ":" ++ render value
  | (key, value) :: rest => quote key ++ ":" ++ render value ++ "," ++ renderMembers rest

end

end Json

end SeatBilling
