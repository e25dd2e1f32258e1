import SeatBilling.Json.Value

/-!
# A scripted database server

The database the store talks to runs no SQL: a script of rules says how it answers each
statement. A rule applies to every statement whose SQL text contains the rule's pattern.

* Running a statement takes the first applicable rule whose count is not used up, and uses up
  one of it; a rule without a count never runs out. The rule makes the statement fail with a
  server error, drop the connection, or succeed with the rule's rows and command tag. With no
  rule the statement succeeds with no rows.
* Describing a statement (what a client does once per connection before it first runs it)
  takes the columns of the first applicable rule that names columns, whether or not its count
  is used up.

The command tag of a statement that the rule gives none is made from the first word of its
SQL: `INSERT 0 1`, `UPDATE 1`, `DELETE 1`, `SELECT` with the number of rows, or the word
itself. A client reads the number of rows a statement touched from the last word of the tag.
-/

namespace SeatBilling.Database

/-- The type of a column. -/
inductive ColumnType where
  | text
  | int4
  | int8
  | bool
  | uuid
  | timestamptz
  | jsonb
  | bytea
  deriving DecidableEq, Repr

namespace ColumnType

/-- The type a script names; a name of no known type is text. -/
def parse (name : String) : ColumnType :=
  match name with
  | "int4" => .int4
  | "int8" => .int8
  | "bool" => .bool
  | "uuid" => .uuid
  | "timestamptz" => .timestamptz
  | "jsonb" => .jsonb
  | "bytea" => .bytea
  | _ => .text

/-- The type's name as the client writes it in its messages. -/
def sqlName : ColumnType → String
  | .text => "TEXT"
  | .int4 => "INT4"
  | .int8 => "INT8"
  | .bool => "BOOL"
  | .uuid => "UUID"
  | .timestamptz => "TIMESTAMPTZ"
  | .jsonb => "JSONB"
  | .bytea => "BYTEA"

end ColumnType

/-- A column of a statement's result. -/
structure Column where
  name : String
  type : ColumnType
  deriving DecidableEq, Repr

/-- An error the server reports: its SQLSTATE code, its message and the constraint it names,
if any. -/
structure ServerError where
  code : String
  message : String
  constraint : Option String
  deriving DecidableEq, Repr

/-- The SQLSTATE code of a unique-key violation. -/
def uniqueViolation : String := "23505"

/-- A rule of the script. -/
structure Rule where
  /-- The text a statement's SQL must contain. -/
  pattern : String
  /-- How many more statements the rule answers; `none` never runs out. -/
  remaining : Option Nat
  error : Option ServerError
  columns : Option (List Column)
  /-- The rows, each a document value per column. -/
  rows : List (List Json)
  tag : Option String
  /-- Whether the rule drops the connection instead of answering. -/
  closes : Bool
  deriving Repr

/-- Whether `pattern` occurs in `text`. -/
def occursIn (pattern : List Char) : List Char → Bool
  | [] => pattern.isEmpty
  | char :: rest => pattern.isPrefixOf (char :: rest) || occursIn pattern rest

namespace Rule

/-- Whether the rule applies to a statement. -/
def applies (rule : Rule) (sql : String) : Bool := occursIn rule.pattern.toList sql.toList

/-- Whether the rule can still answer a statement. -/
def available (rule : Rule) : Bool := rule.remaining != some 0

/-- The rule with one use taken. -/
def use (rule : Rule) : Rule := { rule with remaining := rule.remaining.map (· - 1) }

end Rule

/-- The scripted server: its rules, in order, with what is left of their counts. -/
structure Server where
  rules : List Rule
  deriving Repr

namespace Server

/-- A server with no rules. -/
def empty : Server := ⟨[]⟩

/-- The columns a statement is described with. -/
def describe (server : Server) (sql : String) : List Column :=
  ((server.rules.find? fun rule => rule.applies sql && rule.columns.isSome).bind Rule.columns).getD []

/-- Takes the first rule that answers a statement, using up one of its count. -/
def takeRule (sql : String) : List Rule → Option Rule × List Rule
  | [] => (none, [])
  | rule :: rest =>
    if rule.applies sql && rule.available then (some rule, rule.use :: rest)
    else
      let (taken, left) := takeRule sql rest
      (taken, rule :: left)

/-- The rule that answers a statement now, and the server after it. -/
def answer (server : Server) (sql : String) : Option Rule × Server :=
  let (taken, left) := takeRule sql server.rules
  (taken, ⟨left⟩)

end Server

/-- Whether a character separates words of SQL. -/
def isSpace (char : Char) : Bool := char == ' ' || char == '\n' || char == '\t' || char == '\r'

/-- The first word of a statement, in capitals. -/
def firstWord (sql : String) : String :=
  String.ofList (((sql.toList.dropWhile isSpace).takeWhile (!isSpace ·)).map Char.toUpper)

/-- The command tag of a statement that returned `rowCount` rows and whose rule gives none. -/
def defaultTag (sql : String) (rowCount : Nat) : String :=
  match firstWord sql with
  | "INSERT" => "INSERT 0 1"
  | "UPDATE" => "UPDATE 1"
  | "DELETE" => "DELETE 1"
  | "SELECT" | "WITH" => "SELECT " ++ toString rowCount
  | word => word

end SeatBilling.Database
