import SeatBilling.Time.Display
import SeatBilling.Ident.Uuid

/-!
# Log records

A program reports what it does as log records: a level, a target (the part of the program
that logs, as a path such as `hrcore_billing::scheduler`), a message and named fields. A
record is written as one line, `LEVEL target: message name=value …`.

A field's value is written by the rule its field asks for: as the value shows itself to a
reader (numbers, identifiers, messages, moments), or, for a piece of text taken as it is,
quoted with its special characters escaped.
-/

namespace SeatBilling.Log

/-- How severe a record is, from the most severe. -/
inductive Level where
  | error
  | warn
  | info
  | debug
  | trace
  deriving DecidableEq, Repr

namespace Level

/-- The name of a level, as a line writes it. -/
def name : Level → String
  | .error => "ERROR"
  | .warn => "WARN"
  | .info => "INFO"
  | .debug => "DEBUG"
  | .trace => "TRACE"

/-- The rank of a level: 1 for errors, up to 5 for traces. -/
def rank : Level → Nat
  | .error => 1
  | .warn => 2
  | .info => 3
  | .debug => 4
  | .trace => 5

end Level

/-- A log record; its fields' values are already written. -/
structure Record where
  level : Level
  target : String
  message : String
  fields : List (String × String)
  deriving Repr

/-- The line of a record. -/
def Record.line (record : Record) : String :=
  record.level.name ++ " " ++ record.target ++ ": " ++ record.message ++
    String.join (record.fields.map fun (name, value) => " " ++ name ++ "=" ++ value)

/-- A character of quoted text, escaped where it must be. -/
def escapeChar (char : Char) : String :=
  match char with
  | '"' => "\\\""
  | '\\' => "\\\\"
  | '\n' => "\\n"
  | '\r' => "\\r"
  | '\t' => "\\t"
  | '\x00' => "\\0"
  | _ => char.toString

/-- A piece of text as a field quotes it. -/
def quoted (text : String) : String := "\"" ++ String.join (text.toList.map escapeChar) ++ "\""

/-- An optional identifier as a field shows it: `Some(…)` or `None`. -/
def optionalId : Option Uuid → String
  | some id => "Some(" ++ id.hyphenated ++ ")"
  | none => "None"

/-- An optional piece of text as a field shows it: `Some("…")` or `None`. -/
def optionalText : Option String → String
  | some text => "Some(" ++ quoted text ++ ")"
  | none => "None"

end SeatBilling.Log
