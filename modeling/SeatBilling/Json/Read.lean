import SeatBilling.Json.Cursor

/-!
# Reading JSON text

`Json.read` reads a whole text as one document. It reads bytes from the left and stops at the
first byte that cannot continue a document, so the error it reports is the first one in the
text, at the place where it is met (see `SeatBilling.Json.Cursor`).

The rules that decide texts near the edges of the grammar:

- Blanks are space, tab, newline and carriage return.
- A number with neither fraction nor exponent is whole when it fits a 64-bit word (unsigned
  when positive, signed when negative). Any other number is a double: its digits form a
  significand of at most 64 bits (digits of a fraction past that are dropped, digits of a whole
  part are counted in the power), which `Binary64.ofDecimalByPowers` scales; one that
  overflows is an error (`number out of range`). A zero may not be followed by a digit.
- A string may not hold a control character; `\u` escapes of a surrogate pair are joined,
  and a surrogate alone is an error.
- Arrays and objects may not nest 128 deep.
- Of two members of an object with one key, the later one stays, and the members come out
  ordered by key.

`Json.skip` passes over one document without keeping it. It is looser in one way and
stricter in another, as a reader that keeps nothing can be: it allows any depth and any
number, and after a comma it asks for a value rather than reporting a trailing comma.
-/

namespace SeatBilling.Json

/-- Whether a byte is a decimal digit. -/
def isDigitByte (byte : UInt8) : Bool := 48 ≤ byte && byte ≤ 57

/-- The value of a hexadecimal digit. -/
def hexValue (byte : UInt8) : Option Nat :=
  if 48 ≤ byte && byte ≤ 57 then some (byte.toNat - 48)
  else if 97 ≤ byte && byte ≤ 102 then some (byte.toNat - 87)
  else if 65 ≤ byte && byte ≤ 70 then some (byte.toNat - 55)
  else none

/-- The UTF-8 bytes of a code point. -/
def utf8Bytes (code : Nat) : List UInt8 :=
  if code < 0x80 then [code.toUInt8]
  else if code < 0x800 then [(0xC0 + code / 64).toUInt8, (0x80 + code % 64).toUInt8]
  else if code < 0x10000 then
    [(0xE0 + code / 4096).toUInt8, (0x80 + code / 64 % 64).toUInt8, (0x80 + code % 64).toUInt8]
  else
    [(0xF0 + code / 262144).toUInt8, (0x80 + code / 4096 % 64).toUInt8,
      (0x80 + code / 64 % 64).toUInt8, (0x80 + code % 64).toUInt8]

/-- The cursor at `index` on `line` past all of `rest`. -/
def toEndFrom : List UInt8 → Nat → Nat → Nat → Cursor
  | [], index, line, lineStart => ⟨[], index, line, lineStart⟩
  | byte :: rest, index, line, lineStart =>
    if byte == 10 then toEndFrom rest (index + 1) (line + 1) (index + 1)
    else toEndFrom rest (index + 1) line lineStart

/-- The cursor past all of its text. -/
def Cursor.toEnd (cursor : Cursor) : Cursor :=
  toEndFrom cursor.rest cursor.index cursor.line cursor.lineStart

/-! ## Strings -/

/-- Reads the four hexadecimal digits of a `\u` escape. -/
def hexEscape : Reading Nat := do
  let cursor ← get
  match cursor.rest with
  | a :: b :: c :: d :: _ =>
    set cursor.advance.advance.advance.advance
    match hexValue a, hexValue b, hexValue c, hexValue d with
    | some a, some b, some c, some d => pure (((a * 16 + b) * 16 + c) * 16 + d)
    | _, _, _, _ => failHere .invalidEscape
  | _ =>
    set cursor.toEnd
    failHere .eofInString

/-- Reads a `\u` escape, and the second half of a surrogate pair, as UTF-8 bytes. -/
def unicodeEscape : Reading (List UInt8) := do
  let first ← hexEscape
  if 0xDC00 ≤ first && first ≤ 0xDFFF then failHere .loneSurrogate
  else if first < 0xD800 || first > 0xDBFF then pure (utf8Bytes first)
  else
    match ← nextByte with
    | none => failHere .eofInString
    | some 92 =>
      match ← nextByte with
      | none => failHere .eofInString
      | some 117 =>
        let second ← hexEscape
        if second < 0xDC00 || second > 0xDFFF then failHere .loneSurrogate
        else pure (utf8Bytes ((first - 0xD800) * 1024 + (second - 0xDC00) + 0x10000))
      | some _ => failHere .unexpectedEndOfHexEscape
    | some _ => failHere .unexpectedEndOfHexEscape

/-- Reads an escape after its backslash, as UTF-8 bytes. -/
def escape : Reading (List UInt8) := do
  match ← nextByte with
  | none => failHere .eofInString
  | some 34 => pure [34]
  | some 92 => pure [92]
  | some 47 => pure [47]
  | some 98 => pure [8]
  | some 102 => pure [12]
  | some 110 => pure [10]
  | some 114 => pure [13]
  | some 116 => pure [9]
  | some 117 => unicodeEscape
  | some _ => failHere .invalidEscape

/-- Reads the rest of a string up to its closing quote, `fuel` bytes at most; `kept` holds the
bytes read so far, last first. -/
def stringBytes : Nat → List UInt8 → Reading (List UInt8)
  | 0, _ => failHere .eofInString
  | fuel + 1, kept => do
    match ← nextByte with
    | none => failHere .eofInString
    | some 34 => pure kept.reverse
    | some 92 =>
      let bytes ← escape
      stringBytes fuel (bytes.reverse ++ kept)
    | some byte =>
      if byte < 32 then failHere .controlCharacter else stringBytes fuel (byte :: kept)

/-- Reads a string after its opening quote. -/
def readString : Reading String := do
  let fuel := (← get).rest.length + 1
  let bytes ← stringBytes fuel []
  match String.fromUTF8? (ByteArray.mk bytes.toArray) with
  | some text => pure text
  | none => failHere .invalidCodePoint

/-- Passes over the rest of a string up to its closing quote, `fuel` bytes at most. -/
def skipStringBytes : Nat → Reading Unit
  | 0 => failHere .eofInString
  | fuel + 1 => do
    match ← peekByte with
    | none => failHere .eofInString
    | some 34 => skipByte
    | some 92 =>
      skipByte
      match ← nextByte with
      | none => failHere .eofInString
      | some byte =>
        if byte == 117 then
          let _ ← hexEscape
          skipStringBytes fuel
        else if byte == 34 || byte == 92 || byte == 47 || byte == 98 || byte == 102 ||
            byte == 110 || byte == 114 || byte == 116 then
          skipStringBytes fuel
        else failHere .invalidEscape
    | some byte =>
      if byte < 32 then failHere .controlCharacter
      else do skipByte; skipStringBytes fuel

/-- Passes over a string after its opening quote. -/
def skipString : Reading Unit := do
  skipStringBytes ((← get).rest.length + 1)

/-! ## Words and numbers -/

/-- Reads the rest of a word (`null`, `true`, `false`) after its first letter. -/
def word : List UInt8 → Reading Unit
  | [] => pure ()
  | expected :: rest => do
    match ← nextByte with
    | none => failHere .eofInValue
    | some byte => if byte == expected then word rest else failHere .expectedIdent

/-- Reads a run of decimal digits, `fuel` at most, onto `value`; gives the value and the count. -/
def digitRun : Nat → Nat → Nat → Reading (Nat × Nat)
  | 0, value, count => pure (value, count)
  | fuel + 1, value, count => do
    match ← peekByte with
    | some byte =>
      if isDigitByte byte then do
        skipByte
        digitRun fuel (value * 10 + (byte.toNat - 48)) (count + 1)
      else pure (value, count)
    | none => pure (value, count)

/-- The greatest unsigned 64-bit value. -/
def maxUInt64 : Nat := 18446744073709551615

/-- The greatest signed 32-bit value: an exponent may not pass it. -/
def maxInt32 : Nat := 2147483647

/-- A power held within the signed 32-bit range. -/
def clampInt32 (value : Int) : Int := max (-2147483648) (min maxInt32 value)

/-- Passes over a run of digits. -/
def skipDigits : Reading Unit := do
  let _ ← digitRun ((← get).rest.length) 0 0

/-- Reads digits onto a significand, `fuel` at most, while it stays within 64 bits; gives the
significand, the number of digits taken, and whether a digit that would pass the bound is
next. -/
def significandRun : Nat → Nat → Nat → Reading (Nat × Nat × Bool)
  | 0, value, count => pure (value, count, false)
  | fuel + 1, value, count => do
    match ← peekByte with
    | some byte =>
      if isDigitByte byte then
        let next := value * 10 + (byte.toNat - 48)
        if maxUInt64 < next then pure (value, count, true)
        else do
          skipByte
          significandRun fuel next (count + 1)
      else pure (value, count, false)
    | none => pure (value, count, false)

/-- Reads the digits of an exponent onto `value`, `fuel` at most; `none` as soon as a digit
takes it past the 32-bit range, that digit read. -/
def exponentRun : Nat → Nat → Reading (Option Nat)
  | 0, value => pure (some value)
  | fuel + 1, value => do
    match ← peekByte with
    | some byte =>
      if isDigitByte byte then do
        skipByte
        let next := value * 10 + (byte.toNat - 48)
        if maxInt32 < next then pure none else exponentRun fuel next
      else pure (some value)
    | none => pure (some value)

/-- The number `significand × 10 ^ power` as the double it reads as
(`Binary64.ofDecimalByPowers`), or `number out of range` when that overflows. -/
def finishDecimal (negative : Bool) (significand : Nat) (power : Int) : Reading Json :=
  match Binary64.ofDecimalByPowers significand power with
  | some value => pure (.real (if negative then value.neg else value))
  | none => failHere .numberOutOfRange

/-- Reads an exponent after its letter and finishes the number `significand × 10 ^ power`,
the exponent added to `power` within the 32-bit range. An exponent that passes that range
ends the reading: out of range when it is positive and the significand is not zero, and
otherwise a zero, the rest of its digits passed over. -/
def exponentPart (negative : Bool) (significand : Nat) (power : Int) : Reading Json := do
  skipByte
  let exponentNegative ← do
    match ← peekByte with
    | some 43 => skipByte; pure false
    | some 45 => skipByte; pure true
    | _ => pure false
  match ← nextByte with
  | none => failHere .eofInValue
  | some byte =>
    if isDigitByte byte then do
      match ← exponentRun ((← get).rest.length) (byte.toNat - 48) with
      | some exponent =>
        let total := if exponentNegative then power - exponent else power + exponent
        finishDecimal negative significand (clampInt32 total)
      | none =>
        if significand != 0 && !exponentNegative then failHere .numberOutOfRange
        else do
          skipDigits
          pure (.real (Binary64.zero negative))
    else failHere .invalidNumber

/-- Finishes a number after its digits: by an exponent when a letter `e` follows, else as the
decimal `significand × 10 ^ power`. -/
def afterDigits (negative : Bool) (significand : Nat) (power : Int) : Reading Json := do
  match ← peekByte with
  | some 101 => exponentPart negative significand power
  | some 69 => exponentPart negative significand power
  | _ => finishDecimal negative significand power

/-- Reads a fraction after its point onto `significand`, the decimal standing at `power`. The
digits that would take the significand past 64 bits are passed over; at least one digit must
follow the point. -/
def fractionPart (negative : Bool) (significand : Nat) (power : Int) : Reading Json := do
  skipByte
  let (value, count, overflow) ← significandRun ((← get).rest.length) significand 0
  if overflow then do
    skipDigits
    afterDigits negative value (power - count)
  else if count == 0 then
    match ← peekByte with
    | some _ => failAhead .invalidNumber
    | none => failAhead .eofInValue
  else afterDigits negative value (power - count)

/-- Reads the rest of a whole part too long for 64 bits: its digits only raise the power. -/
def longWhole (negative : Bool) (significand : Nat) : Reading Json := do
  let (_, extra) ← digitRun ((← get).rest.length) 0 0
  match ← peekByte with
  | some 46 => fractionPart negative significand extra
  | some 101 => exponentPart negative significand extra
  | some 69 => exponentPart negative significand extra
  | _ => finishDecimal negative significand extra

/-- Reads what follows the whole part of a number: a fraction, an exponent, or nothing. A
whole number stays whole when it fits the word of its sign; `-0` and a negative number past
the signed range are doubles. -/
def numberTail (negative : Bool) (whole : Nat) : Reading Json := do
  match ← peekByte with
  | some 46 => fractionPart negative whole 0
  | some 101 => exponentPart negative whole 0
  | some 69 => exponentPart negative whole 0
  | _ =>
    if negative then
      if whole == 0 then pure (.real (Binary64.zero true))
      else if whole ≤ 9223372036854775808 then pure (.int (-(whole : Int)))
      else finishDecimal true whole 0
    else pure (.int whole)

/-- Reads a number after its sign, if any. -/
def readNumber (negative : Bool) : Reading Json := do
  match ← nextByte with
  | none => failHere .eofInValue
  | some 48 =>
    match ← peekByte with
    | some byte => if isDigitByte byte then failAhead .invalidNumber else numberTail negative 0
    | none => numberTail negative 0
  | some byte =>
    if isDigitByte byte then do
      let (whole, _, overflow) ← significandRun ((← get).rest.length) (byte.toNat - 48) 1
      if overflow then longWhole negative whole else numberTail negative whole
    else failHere .invalidNumber

/-- Passes over an exponent after its letter. -/
def skipExponent : Reading Unit := do
  skipByte
  match ← peekByte with
  | some 43 => skipByte
  | some 45 => skipByte
  | _ => pure ()
  match ← nextByte with
  | some byte => if isDigitByte byte then skipDigits else failHere .invalidNumber
  | none => failHere .invalidNumber

/-- Passes over a number after its sign, if any. -/
def skipNumber : Reading Unit := do
  match ← nextByte with
  | some 48 =>
    match ← peekByte with
    | some byte => if isDigitByte byte then failAhead .invalidNumber else pure ()
    | none => pure ()
  | some byte => if isDigitByte byte then skipDigits else failHere .invalidNumber
  | none => failHere .invalidNumber
  match ← peekByte with
  | some 46 =>
    skipByte
    let (_, count) ← digitRun ((← get).rest.length) 0 0
    if count == 0 then failAhead .invalidNumber
    else
      match ← peekByte with
      | some 101 => skipExponent
      | some 69 => skipExponent
      | _ => pure ()
  | some 101 => skipExponent
  | some 69 => skipExponent
  | _ => pure ()

/-! ## Documents -/

/-- Reads the colon between a key and its value. -/
def colon : Reading Unit := do
  match ← peekAfterBlank with
  | some 58 => skipByte
  | some _ => failAhead .expectedColon
  | none => failAhead .eofInObject

/-- Whether another item of an array follows: reads past its comma if so. `first` tells
whether an item has been read. -/
def moreItems (first : Bool) : Reading Bool := do
  match ← peekAfterBlank with
  | none => failAhead .eofInList
  | some 93 => pure false
  | some 44 =>
    if first then pure true
    else
      skipByte
      match ← peekAfterBlank with
      | some 93 => failAhead .trailingComma
      | some _ => pure true
      | none => failAhead .eofInValue
  | some _ => if first then pure true else failAhead .expectedListCommaOrEnd

/-- Whether another member of an object follows: reads past its comma if so, and checks that
a key starts there. `first` tells whether a member has been read. -/
def moreMembers (first : Bool) : Reading Bool := do
  let next ← do
    match ← peekAfterBlank with
    | some 125 => pure none
    | some 44 =>
      if first then pure (some (some 44))
      else do
        skipByte
        pure (some (← peekAfterBlank))
    | some byte => if first then pure (some (some byte)) else failAhead .expectedObjectCommaOrEnd
    | none => failAhead .eofInObject
  match next with
  | none => pure false
  | some (some 34) => pure true
  | some (some 125) => failAhead .trailingComma
  | some (some _) => failAhead .keyNotString
  | some none => failAhead .eofInValue

/-- Reads the closing bracket of an array whose items are all read. -/
def closeArray : Reading Unit := do
  match ← peekAfterBlank with
  | some 93 => skipByte
  | some 44 =>
    skipByte
    match ← peekAfterBlank with
    | some 93 => failAhead .trailingComma
    | _ => failAhead .trailingCharacters
  | some _ => failAhead .trailingCharacters
  | none => failAhead .eofInList

/-- Reads the closing brace of an object whose members are all read. -/
def closeObject : Reading Unit := do
  match ← peekAfterBlank with
  | some 125 => skipByte
  | some 44 => failAhead .trailingComma
  | some _ => failAhead .trailingCharacters
  | none => failAhead .eofInObject

mutual

/-- Reads one document, `fuel` steps at most, with `depth` levels of nesting still allowed. -/
def readValue : Nat → Nat → Reading Json
  | 0, _ => failAhead .eofInValue
  | fuel + 1, depth => do
    match ← peekAfterBlank with
    | none => failAhead .eofInValue
    | some 110 => skipByte; word [117, 108, 108]; pure .null
    | some 116 => skipByte; word [114, 117, 101]; pure (.bool true)
    | some 102 => skipByte; word [97, 108, 115, 101]; pure (.bool false)
    | some 45 => skipByte; readNumber true
    | some 34 => skipByte; return .str (← readString)
    | some 91 =>
      if depth ≤ 1 then failAhead .recursionLimit
      else
        skipByte
        let items ← readItems fuel (depth - 1) true []
        closeArray
        pure (.arr items)
    | some 123 =>
      if depth ≤ 1 then failAhead .recursionLimit
      else
        skipByte
        let members ← readMembers fuel (depth - 1) true []
        closeObject
        pure (.obj members)
    | some byte => if isDigitByte byte then readNumber false else failAhead .expectedValue

/-- Reads the items of an array up to its closing bracket; `kept` holds those read, last first. -/
def readItems : Nat → Nat → Bool → List Json → Reading (List Json)
  | 0, _, _, _ => failAhead .eofInList
  | fuel + 1, depth, first, kept => do
    if ← moreItems first then
      let item ← readValue fuel depth
      readItems fuel depth false (item :: kept)
    else pure kept.reverse

/-- Reads the members of an object up to its closing brace, ordered by key. -/
def readMembers : Nat → Nat → Bool → List (String × Json) → Reading (List (String × Json))
  | 0, _, _, _ => failAhead .eofInObject
  | fuel + 1, depth, first, kept => do
    if ← moreMembers first then
      skipByte
      let key ← readString
      colon
      let value ← readValue fuel depth
      readMembers fuel depth false (insertSorted key value kept)
    else pure kept

end

/-- Reads the members of an object up to its closing brace as they are written, a repeated
key kept as often as it stands; each value is read whole with `depth` levels of nesting still
allowed, `fuel` members at most. `kept` holds those read, last first. -/
def rawMembers (depth : Nat) : Nat → Bool → List (String × Json) → Reading (List (String × Json))
  | 0, _, _ => failAhead .eofInObject
  | fuel + 1, first, kept => do
    if ← moreMembers first then
      skipByte
      let key ← readString
      colon
      let value ← readValue ((← get).rest.length + 1) depth
      rawMembers depth fuel false ((key, value) :: kept)
    else pure kept.reverse

/-- Reads a whole text as one document, with nothing but blanks after it. -/
def read (text : String) : Except ReadError Json :=
  let reading : Reading Json := do
    let value ← readValue (text.utf8ByteSize + 1) 128
    match ← peekAfterBlank with
    | some _ => failAhead .trailingCharacters
    | none => pure value
  reading.runOn (Cursor.start text)

/-- What passing over a document still owes: the open arrays (`91`) and objects (`123`),
innermost first. -/
abbrev OpenFrames := List UInt8

/-- Passes over the closing brackets and commas after a value or an opening bracket: gives
the frame whose next member or item is due, or `none` when the document is over. -/
def closeFrames : Nat → Bool → UInt8 → OpenFrames → Reading (Option (UInt8 × OpenFrames))
  | 0, _, _, _ => failAhead .eofInValue
  | fuel + 1, afterValue, frame, outer => do
    match ← peekAfterBlank with
    | some 44 => if afterValue then do skipByte; pure (some (frame, outer)) else pure (some (frame, outer))
    | some 93 =>
      if frame == 91 then do
        skipByte
        match outer with
        | [] => pure none
        | next :: rest => closeFrames fuel true next rest
      else if afterValue then failAhead .expectedObjectCommaOrEnd else pure (some (frame, outer))
    | some 125 =>
      if frame == 123 then do
        skipByte
        match outer with
        | [] => pure none
        | next :: rest => closeFrames fuel true next rest
      else if afterValue then failAhead .expectedListCommaOrEnd else pure (some (frame, outer))
    | some _ =>
      if afterValue then
        failAhead (if frame == 91 then .expectedListCommaOrEnd else .expectedObjectCommaOrEnd)
      else pure (some (frame, outer))
    | none =>
      if afterValue then failAhead (if frame == 91 then .eofInList else .eofInObject)
      else pure (some (frame, outer))

/-- Passes over the key and colon of the next member of an object. -/
def skipKey : Reading Unit := do
  match ← peekAfterBlank with
  | some 34 => skipByte
  | some _ => failAhead .keyNotString
  | none => failAhead .eofInObject
  skipString
  match ← peekAfterBlank with
  | some 58 => skipByte
  | some _ => failAhead .expectedColon
  | none => failAhead .eofInObject

/-- Passes over documents, `fuel` steps at most, inside the open frames `frames`. -/
def skipFrom : Nat → OpenFrames → Reading Unit
  | 0, _ => failAhead .eofInValue
  | fuel + 1, frames => do
    let opened ← do
      match ← peekAfterBlank with
      | none => failAhead .eofInValue
      | some 110 => skipByte; word [117, 108, 108]; pure none
      | some 116 => skipByte; word [114, 117, 101]; pure none
      | some 102 => skipByte; word [97, 108, 115, 101]; pure none
      | some 45 => skipByte; skipNumber; pure none
      | some 34 => skipByte; skipString; pure none
      | some 91 => skipByte; pure (some (91 : UInt8))
      | some 123 => skipByte; pure (some (123 : UInt8))
      | some byte => if isDigitByte byte then do skipNumber; pure none else failAhead .expectedValue
    let due ← match opened, frames with
      | some frame, outer => closeFrames fuel false frame outer
      | none, [] => pure none
      | none, frame :: outer => closeFrames fuel true frame outer
    match due with
    | none => pure ()
    | some (frame, outer) =>
      if frame == 123 then skipKey
      skipFrom fuel (frame :: outer)

/-- Passes over one document. -/
def skip : Reading Unit := do
  skipFrom ((← get).rest.length + 1) []

end SeatBilling.Json
