/-!
# Identifiers

A `Uuid` is a 128-bit identifier. It is written in two forms: hyphenated (`8-4-4-4-12`
lowercase hexadecimal digits) and simple (32 lowercase digits). Reading accepts the simple
form, the hyphenated form, the hyphenated form in braces and the hyphenated form after
`urn:uuid:` (of either case), with digits of either case.

Fresh identifiers come from a counter: `Uuid.ofSerial` spreads the counter over the bits of
a random (version 4) identifier by multiplying with an odd constant modulo 2^122, which is
a bijection, so distinct serials give distinct identifiers.
-/

namespace SeatBilling

/-- A 128-bit identifier. -/
structure Uuid where
  bits : Nat
  deriving DecidableEq, Repr, Inhabited

namespace Uuid

/-- The identifier of all zeros. -/
def nil : Uuid := ⟨0⟩

/-- A lowercase hexadecimal digit. -/
def hexDigit (value : Nat) : Char :=
  if value < 10 then Char.ofNat ('0'.toNat + value) else Char.ofNat ('a'.toNat + value - 10)

/-- The `count` lowercase hexadecimal digits of a value, most significant first. -/
def hexDigits : Nat → Nat → List Char
  | 0, _ => []
  | count + 1, value => hexDigits count (value / 16) ++ [hexDigit (value % 16)]

/-- The 32 digits of the simple form. -/
def simple (id : Uuid) : String := String.ofList (hexDigits 32 (id.bits % Nat.pow 2 128))

/-- The hyphenated form. -/
def hyphenated (id : Uuid) : String :=
  let digits := hexDigits 32 (id.bits % Nat.pow 2 128)
  String.ofList (digits.take 8 ++ '-' :: (digits.drop 8).take 4 ++ '-' :: (digits.drop 12).take 4 ++
    '-' :: (digits.drop 16).take 4 ++ '-' :: digits.drop 20)

/-- The value of a hexadecimal digit of either case. -/
def digitValue (c : Char) : Option Nat :=
  if '0' ≤ c && c ≤ '9' then some (c.toNat - '0'.toNat)
  else if 'a' ≤ c && c ≤ 'f' then some (c.toNat - 'a'.toNat + 10)
  else if 'A' ≤ c && c ≤ 'F' then some (c.toNat - 'A'.toNat + 10)
  else none

/-- The value of a list of hexadecimal digits, if all of them are digits. -/
def hexValue (digits : List Char) : Option Nat :=
  digits.foldlM (fun value c => (digitValue c).map (value * 16 + ·)) 0

/-- Reads 32 digits. -/
def ofSimple? (digits : List Char) : Option Uuid :=
  if digits.length == 32 then (hexValue digits).map Uuid.mk else none

/-- Reads the hyphenated form: hyphens after the 8th, 12th, 16th and 20th digit. -/
def ofHyphenated? (text : List Char) : Option Uuid :=
  if text.length == 36 && text[8]? == some '-' && text[13]? == some '-' &&
      text[18]? == some '-' && text[23]? == some '-' then
    (hexValue (text.take 8 ++ (text.drop 9).take 4 ++ (text.drop 14).take 4 ++
      (text.drop 19).take 4 ++ text.drop 24)).map Uuid.mk
  else none

/-- Whether a text starts with `urn:uuid:`, letters of either case. -/
def hasUrnPrefix (chars : List Char) : Bool :=
  (chars.take 9).map Char.toLower == "urn:uuid:".toList

/-- Whether a text is wrapped in braces. -/
def isBraced (chars : List Char) : Bool :=
  chars.length ≥ 2 && chars.head? == some '{' && chars.getLast? == some '}'

/-- Reads an identifier in any of the accepted forms. The form is told by the length in bytes:
32 simple, 36 hyphenated, 38 hyphenated in braces, 45 hyphenated after `urn:uuid:`. -/
def parse? (text : String) : Option Uuid :=
  let chars := text.toList
  match text.utf8ByteSize with
  | 32 => ofSimple? chars
  | 36 => ofHyphenated? chars
  | 38 => if isBraced chars then ofHyphenated? ((chars.drop 1).take 36) else none
  | 45 => if hasUrnPrefix chars then ofHyphenated? (chars.drop 9) else none
  | _ => none

/-! ## Why a text is not an identifier -/

/-- The characters of a text, each with the byte offset where it starts. -/
def charOffsets (text : String) : List (Nat × Char) :=
  (text.toList.foldl (fun (acc : Nat × List (Nat × Char)) char =>
    (acc.1 + char.utf8Size, (acc.1, char) :: acc.2)) (0, [])).2.reverse

/-- Where the groups of the hyphenated form start. -/
def groupStarts : List Nat := [0, 9, 14, 19, 24]

/-- How many digits each group of the hyphenated form has. -/
def groupLengths : List Nat := [8, 4, 4, 4, 12]

/-- The complaint about the first of the first four groups whose hyphen is misplaced, given
the offsets of the first four hyphens; about the last group when all four are in place. -/
def groupComplaint (hyphens : List Nat) (length : Nat) : String :=
  let misplaced := (List.range 4).find? fun group =>
    hyphens.getD group 0 != groupStarts.getD (group + 1) 0 - 1
  match misplaced with
  | some group =>
    "invalid group length in group " ++ toString group ++ ": expected " ++
      toString (groupLengths.getD group 0) ++ ", found " ++
      toString (hyphens.getD group 0 - groupStarts.getD group 0)
  | none => "invalid group length in group 4: expected 12, found " ++ toString (length - 24)

/-- The part of a refused text that its complaint is about, and whether that part was meant as
the simple form. A text of a length that names a form is taken in that form; any other loses
its braces or its `urn:uuid:` and is taken as simple when it had neither. -/
def complaintBody (chars : List Char) (size : Nat) : List Char × Bool :=
  if size == 32 then (chars, true)
  else if size == 36 then (chars, false)
  else if size == 38 && isBraced chars then ((chars.drop 1).dropLast, false)
  else if size == 45 && hasUrnPrefix chars then (chars.drop 9, false)
  else if isBraced chars then ((chars.drop 1).dropLast, false)
  else if hasUrnPrefix chars then (chars.drop 9, false)
  else (chars, true)

/-- Why a text that is not an identifier in any accepted form is refused: a text longer than
any form, else the first character that is neither a digit nor a hyphen, else a simple form
of the wrong length, else the wrong number of groups, else the first group of the wrong
length. Offsets count bytes from the start of the part complained about; lengths count the
bytes of the whole text. -/
def whyInvalid (text : String) : String :=
  let size := text.utf8ByteSize
  let (body, simpleForm) := complaintBody text.toList size
  let offsets := charOffsets (String.ofList body)
  let stray := offsets.find? fun (_, char) => char != '-' && (digitValue char).isNone
  let hyphens := (offsets.filter fun (_, char) => char == '-').map Prod.fst
  if 45 < size then "invalid length: found " ++ toString size
  else
    match stray with
    | some (index, char) => "invalid character: found `" ++ char.toString ++ "` at " ++ toString index
    | none =>
      if hyphens.isEmpty && simpleForm then "invalid length: found " ++ toString size
      else if hyphens.length != 4 then
        "invalid group count: expected 5, found " ++ toString (hyphens.length + 1)
      else groupComplaint hyphens size

/-- The odd multiplier that spreads serial numbers over the random bits. -/
def spread : Nat := 0x9e3779b97f4a7c15f39cc0605cedc835 % Nat.pow 2 122

/-- The `serial`-th fresh identifier: a version 4, variant 1 identifier whose 122 free bits
are `serial × spread` modulo 2^122. -/
def ofSerial (serial : Nat) : Uuid :=
  let free := serial * spread % Nat.pow 2 122
  -- free bits: 48 high, then 12, then 62 low; version nibble 4 and variant bits 10 between them
  let high := free / Nat.pow 2 74
  let middle := free / Nat.pow 2 62 % Nat.pow 2 12
  let low := free % Nat.pow 2 62
  ⟨high * Nat.pow 2 80 + 4 * Nat.pow 2 76 + middle * Nat.pow 2 64 + 2 * Nat.pow 2 62 + low⟩

end Uuid

end SeatBilling
