import SeatBilling.Json.Value

/-!
# Reading position and reading errors

A `Cursor` is the unread rest of a UTF-8 text together with where it stands: the number of
bytes read, and the line and the byte where that line starts. A reading error names its
problem and a place, as a line (counted from 1) and a column: the number of bytes of that
line read so far. An error about the byte just read stands at the cursor (`here`); an error
about the next, unread byte stands one byte further (`ahead`), as if it had been read.
-/

namespace SeatBilling.Json

/-- Why a text could not be read as JSON, or as the document a decoder expects. -/
inductive Problem where
  | eofInList
  | eofInObject
  | eofInString
  | eofInValue
  | expectedColon
  | expectedListCommaOrEnd
  | expectedObjectCommaOrEnd
  | expectedIdent
  | expectedValue
  | invalidEscape
  | invalidNumber
  | numberOutOfRange
  | invalidCodePoint
  | controlCharacter
  | keyNotString
  | loneSurrogate
  | trailingComma
  | trailingCharacters
  | unexpectedEndOfHexEscape
  | recursionLimit
  /-- A decoder's own complaint about a well-formed document. -/
  | custom (text : String)
  /-- A problem met inside the value of a member (named by its key) or of an item (named
  `[index]`), when the decoder keeps track of where it is. -/
  | within (segment : String) (inner : Problem)
  deriving DecidableEq, Repr

/-- The place of a problem inside the document: the keys and items it was met in, outermost
first. -/
def Problem.path : Problem → List String
  | .within segment inner => segment :: inner.path
  | _ => []

/-- The path written as keys joined by dots, with items written `[index]` right after what
holds them. -/
def pathText : List String → String
  | [] => ""
  | first :: rest => first ++ String.join (rest.map fun segment =>
    if segment.startsWith "[" then segment else "." ++ segment)

/-- Whether a problem is a decoder's complaint about a well-formed document, rather than a
flaw of the text. -/
def Problem.isComplaint : Problem → Bool
  | .custom _ => true
  | .within _ inner => inner.isComplaint
  | _ => false

/-- The text of a problem, without its place inside the document. -/
def Problem.text : Problem → String
  | .eofInList => "EOF while parsing a list"
  | .eofInObject => "EOF while parsing an object"
  | .eofInString => "EOF while parsing a string"
  | .eofInValue => "EOF while parsing a value"
  | .expectedColon => "expected `:`"
  | .expectedListCommaOrEnd => "expected `,` or `]`"
  | .expectedObjectCommaOrEnd => "expected `,` or `\x7d`"
  | .expectedIdent => "expected ident"
  | .expectedValue => "expected value"
  | .invalidEscape => "invalid escape"
  | .invalidNumber => "invalid number"
  | .numberOutOfRange => "number out of range"
  | .invalidCodePoint => "invalid unicode code point"
  | .controlCharacter => "control character (\\u0000-\\u001F) found while parsing a string"
  | .keyNotString => "key must be a string"
  | .loneSurrogate => "lone leading surrogate in hex escape"
  | .trailingComma => "trailing comma"
  | .trailingCharacters => "trailing characters"
  | .unexpectedEndOfHexEscape => "unexpected end of hex escape"
  | .recursionLimit => "recursion limit exceeded"
  | .custom text => text
  | .within _ inner => inner.text

/-- The text of a problem, after its place inside the document if it has one. -/
def Problem.message (problem : Problem) : String :=
  match problem.path with
  | [] => problem.text
  | path => pathText path ++ ": " ++ problem.text

/-- A problem and the place it was met. -/
structure ReadError where
  problem : Problem
  line : Nat
  column : Nat
  deriving DecidableEq, Repr

/-- The text of a reading error: the problem, then its line and column. -/
def ReadError.message (error : ReadError) : String :=
  error.problem.message ++ " at line " ++ toString error.line ++ " column " ++ toString error.column

/-- The unread rest of a text and where it stands. -/
structure Cursor where
  rest : List UInt8
  index : Nat
  line : Nat
  lineStart : Nat
  deriving Repr

namespace Cursor

/-- A cursor at the start of some bytes, which need not be UTF-8 text. -/
def ofBytes (bytes : List UInt8) : Cursor := ⟨bytes, 0, 1, 0⟩

/-- A cursor at the start of a text. -/
def start (text : String) : Cursor := ofBytes text.toUTF8.toList

/-- The next byte, if any. -/
def peek (cursor : Cursor) : Option UInt8 := cursor.rest.head?

/-- The cursor past its next byte; a newline starts a new line. -/
def advance (cursor : Cursor) : Cursor :=
  match cursor.rest with
  | [] => cursor
  | byte :: rest =>
    if byte == 10 then ⟨rest, cursor.index + 1, cursor.line + 1, cursor.index + 1⟩
    else ⟨rest, cursor.index + 1, cursor.line, cursor.lineStart⟩

/-- The place of the cursor: its line and the bytes of that line read. -/
def here (cursor : Cursor) : Nat × Nat := (cursor.line, cursor.index - cursor.lineStart)

/-- The place one byte further, where an error about the next byte stands. -/
def ahead (cursor : Cursor) : Nat × Nat := (cursor.advance).here

/-- The cursor at `index` on `line`, past the blanks that start `rest`. -/
def skipBlankFrom : List UInt8 → Nat → Nat → Nat → Cursor
  | byte :: rest, index, line, lineStart =>
    if byte == 32 || byte == 9 || byte == 13 then skipBlankFrom rest (index + 1) line lineStart
    else if byte == 10 then skipBlankFrom rest (index + 1) (line + 1) (index + 1)
    else ⟨byte :: rest, index, line, lineStart⟩
  | [], index, line, lineStart => ⟨[], index, line, lineStart⟩

/-- The cursor past blanks: spaces, tabs, newlines and carriage returns. -/
def skipBlank (cursor : Cursor) : Cursor :=
  skipBlankFrom cursor.rest cursor.index cursor.line cursor.lineStart

end Cursor

/-- A step of reading: from a cursor to a value or an error, and the cursor after it. An error
leaves the cursor where it stopped the reading, so a reader that drops the error goes on from
there. -/
abbrev Reading := ExceptT ReadError (StateM Cursor)

/-- Reads from a cursor: the value, or the first error. -/
def Reading.runOn {α : Type} (reading : Reading α) (cursor : Cursor) : Except ReadError α :=
  (reading.run.run cursor).1

/-- Runs `action`; an error it meets is dropped, and reading goes on from where the error
stopped it. -/
def attempt {α : Type} (action : Reading α) : Reading (Option α) :=
  tryCatch (some <$> action) fun _ => pure none

/-- Fails with a problem about the byte just read. -/
def failHere {α : Type} (problem : Problem) : Reading α := do
  let cursor ← get
  let (line, column) := cursor.here
  throw ⟨problem, line, column⟩

/-- Fails with a problem about the next byte. -/
def failAhead {α : Type} (problem : Problem) : Reading α := do
  let cursor ← get
  let (line, column) := cursor.ahead
  throw ⟨problem, line, column⟩

/-- The next byte, unread. -/
def peekByte : Reading (Option UInt8) := do
  return (← get).peek

/-- Reads the next byte. -/
def nextByte : Reading (Option UInt8) := do
  let cursor ← get
  set cursor.advance
  return cursor.peek

/-- Reads past one byte. -/
def skipByte : Reading Unit := modify Cursor.advance

/-- Reads past blanks and gives the next byte, unread. -/
def peekAfterBlank : Reading (Option UInt8) := do
  modify Cursor.skipBlank
  peekByte

end SeatBilling.Json
