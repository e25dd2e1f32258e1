/-!
# Base64url without padding

The URL-safe base64 alphabet (`A`–`Z`, `a`–`z`, `0`–`9`, `-`, `_`) with no `=` padding.
Three bytes become four characters; a last group of one or two bytes becomes two or three
characters.

Reading is strict, so that every byte string has exactly one text: a character outside the
alphabet, padding, a length of one modulo four, or a last character whose unused low bits are
not zero is refused.
-/

namespace SeatBilling.Encoding.Base64Url

/-- The character of a six-bit value. -/
def symbol (value : Nat) : Char :=
  if value < 26 then Char.ofNat ('A'.toNat + value)
  else if value < 52 then Char.ofNat ('a'.toNat + value - 26)
  else if value < 62 then Char.ofNat ('0'.toNat + value - 52)
  else if value == 62 then '-'
  else '_'

/-- The six-bit value of a character of the alphabet. -/
def valueOf (char : Char) : Option Nat :=
  if 'A' ≤ char && char ≤ 'Z' then some (char.toNat - 'A'.toNat)
  else if 'a' ≤ char && char ≤ 'z' then some (char.toNat - 'a'.toNat + 26)
  else if '0' ≤ char && char ≤ '9' then some (char.toNat - '0'.toNat + 52)
  else if char == '-' then some 62
  else if char == '_' then some 63
  else none

/-- The text of a byte string. -/
def encode : List UInt8 → List Char
  | b0 :: b1 :: b2 :: rest =>
    let group := b0.toNat * 65536 + b1.toNat * 256 + b2.toNat
    symbol (group / 262144) :: symbol (group / 4096 % 64) :: symbol (group / 64 % 64) ::
      symbol (group % 64) :: encode rest
  | [b0, b1] =>
    let group := b0.toNat * 256 + b1.toNat
    [symbol (group / 1024), symbol (group / 16 % 64), symbol (group % 16 * 4)]
  | [b0] => [symbol (b0.toNat / 4), symbol (b0.toNat % 4 * 16)]
  | [] => []

/-- The text of a byte string, as a string. -/
def encodeString (bytes : List UInt8) : String := String.ofList (encode bytes)

/-- The bytes a text stands for, if it is the text of some byte string. -/
def decode : List Char → Option (List UInt8)
  | c0 :: c1 :: c2 :: c3 :: rest => do
    let group := (← valueOf c0) * 262144 + (← valueOf c1) * 4096 + (← valueOf c2) * 64 + (← valueOf c3)
    let tail ← decode rest
    return (group / 65536).toUInt8 :: (group / 256 % 256).toUInt8 :: (group % 256).toUInt8 :: tail
  | [c0, c1, c2] => do
    let group := (← valueOf c0) * 4096 + (← valueOf c1) * 64 + (← valueOf c2)
    if group % 4 != 0 then none
    return [(group / 1024).toUInt8, (group / 4 % 256).toUInt8]
  | [c0, c1] => do
    let group := (← valueOf c0) * 64 + (← valueOf c1)
    if group % 16 != 0 then none
    return [(group / 16).toUInt8]
  | [_] => none
  | [] => some []

end SeatBilling.Encoding.Base64Url
