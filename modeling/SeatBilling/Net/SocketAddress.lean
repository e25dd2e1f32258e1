/-!
# Socket addresses

A socket address is an IP address with a port: `a.b.c.d:port` for IPv4, or
`[address]:port` (optionally `[address%scope]:port`) for IPv6.

Reading follows the strict grammar: an IPv4 address is four decimal numbers up to 255,
separated by dots, none with a leading zero; an IPv6 address is eight groups of one to four
hexadecimal digits separated by colons, where one run of groups may be left out as `::` and
the last two groups may be written as an IPv4 address; a port is a decimal number up to
65535 and a scope one up to 4294967295. Nothing may follow the address.

Writing an IPv6 address leaves out its longest run of at least two zero groups (the first of
equal runs) as `::`, writes the groups in lowercase hexadecimal without leading zeros, and
writes an IPv4 address mapped into IPv6 as `::ffff:a.b.c.d`.
-/

namespace SeatBilling.Net

/-- A socket address. -/
inductive SocketAddress where
  /-- An IPv4 address, its four octets, and a port. -/
  | v4 (octets : List Nat) (port : Nat)
  /-- An IPv6 address, its eight groups, a scope (`0` for none), and a port. -/
  | v6 (groups : List Nat) (scope : Nat) (port : Nat)
  deriving DecidableEq, Repr

/-- The value of a digit in base `radix` (10 or 16). -/
def digitValue (radix : Nat) (char : Char) : Option Nat :=
  if '0' ≤ char && char ≤ '9' then some (char.toNat - '0'.toNat)
  else if radix == 16 && 'a' ≤ char && char ≤ 'f' then some (char.toNat - 'a'.toNat + 10)
  else if radix == 16 && 'A' ≤ char && char ≤ 'F' then some (char.toNat - 'A'.toNat + 10)
  else none

/-- The digits in base `radix` at the start of `chars`, read as one number: the number, how
many digits, and the rest. -/
def readDigits (radix : Nat) : List Char → Nat × Nat × List Char
  | [] => (0, 0, [])
  | char :: rest =>
    match digitValue radix char with
    | none => (0, 0, char :: rest)
    | some digit =>
      let (value, count, after) := readDigits radix rest
      (digit * radix ^ count + value, count + 1, after)

/-- A number at the start of `chars`: at least one digit, at most `maxDigits` when given, no
leading zero unless `zeroPrefix`, and at most `bound`. -/
def readNumber (radix : Nat) (maxDigits : Option Nat) (zeroPrefix : Bool) (bound : Nat)
    (chars : List Char) : Option (Nat × List Char) :=
  let (value, count, rest) := readDigits radix chars
  let leadingZero := chars.head? == some '0'
  if count == 0 then none
  else if maxDigits.any (· < count) then none
  else if !zeroPrefix && leadingZero && count > 1 then none
  else if value > bound then none
  else some (value, rest)

/-- Reads the character `char` at the start of `chars`. -/
def expect (char : Char) : List Char → Option (List Char)
  | first :: rest => if first == char then some rest else none
  | [] => none

/-- Reads an IPv4 address: its octets and the rest. -/
def readIpv4 (chars : List Char) : Option (List Nat × List Char) := do
  let octet := readNumber 10 (some 3) false 255
  let (a, rest) ← octet chars
  let (b, rest) ← octet (← expect '.' rest)
  let (c, rest) ← octet (← expect '.' rest)
  let (d, rest) ← octet (← expect '.' rest)
  pure ([a, b, c, d], rest)

/-- Reads up to `slots` groups of an IPv6 address, the `index`-th first; each after the
first follows a colon. The last two slots may hold an IPv4 address, which ends the groups.
Gives the groups, whether they ended in an IPv4 address, and the rest. -/
def readGroups : Nat → Nat → List Char → List Nat × Bool × List Char
  | 0, _, chars => ([], false, chars)
  | slots + 1, index, chars =>
    let afterColon := if index > 0 then expect ':' chars else some chars
    let embedded := if slots ≥ 1 then afterColon.bind readIpv4 else none
    match embedded with
    | some (octets, rest) =>
      let byte (i : Nat) := octets.getD i 0
      ([byte 0 * 256 + byte 1, byte 2 * 256 + byte 3], true, rest)
    | none =>
      match afterColon.bind (readNumber 16 (some 4) true 65535) with
      | some (group, rest) =>
        let (groups, embedded, rest) := readGroups slots (index + 1) rest
        (group :: groups, embedded, rest)
      | none => ([], false, chars)

/-- Reads an IPv6 address: its eight groups and the rest. -/
def readIpv6 (chars : List Char) : Option (List Nat × List Char) :=
  let (head, embedded, rest) := readGroups 8 0 chars
  if head.length == 8 then some (head, rest)
  else if embedded then none
  else do
    let rest ← expect ':' rest
    let rest ← expect ':' rest
    let (tail, _, rest) := readGroups (8 - (head.length + 1)) 0 rest
    pure (head ++ List.replicate (8 - head.length - tail.length) 0 ++ tail, rest)

/-- Reads a port. -/
def readPort (chars : List Char) : Option (Nat × List Char) := readNumber 10 none true 65535 chars

/-- Reads an IPv4 socket address. -/
def readV4 (chars : List Char) : Option (SocketAddress × List Char) := do
  let (octets, rest) ← readIpv4 chars
  let (port, rest) ← readPort (← expect ':' rest)
  pure (.v4 octets port, rest)

/-- Reads a bracketed IPv6 socket address. -/
def readV6 (chars : List Char) : Option (SocketAddress × List Char) := do
  let (groups, rest) ← readIpv6 (← expect '[' chars)
  let (scope, rest) ← match rest with
    | '%' :: rest => readNumber 10 none true 4294967295 rest
    | rest => some (0, rest)
  let (port, rest) ← readPort (← expect ':' (← expect ']' rest))
  pure (.v6 groups scope port, rest)

/-- Reads a socket address; nothing may follow it. -/
def SocketAddress.parse? (text : String) : Option SocketAddress :=
  match readV4 text.toList with
  | some (address, []) => some address
  | some _ => none
  | none =>
    match readV6 text.toList with
    | some (address, []) => some address
    | _ => none

/-- Why a text is not a socket address. -/
def invalidSyntax : String := "invalid socket address syntax"

/-- A number in lowercase hexadecimal without leading zeros. -/
def hexText (value : Nat) : String :=
  String.ofList (Nat.toDigits 16 value)

/-- Groups written with colons between them. -/
def groupsText (groups : List Nat) : String := ":".intercalate (groups.map hexText)

/-- The longest run of zero groups: where it starts and how long it is; the first of equal
runs. -/
def longestZeroRun (groups : List Nat) : Nat × Nat :=
  let step := fun (state : (Nat × Nat) × (Nat × Nat)) (entry : Nat × Nat) =>
    let ((bestStart, bestLength), (start, length)) := state
    let (group, index) := entry
    if group == 0 then
      let current := if length == 0 then (index, 1) else (start, length + 1)
      (if current.2 > bestLength then current else (bestStart, bestLength), current)
    else ((bestStart, bestLength), (0, 0))
  (groups.zipIdx.foldl step ((0, 0), (0, 0))).1

/-- An IPv4 address written with dots. -/
def octetsText (octets : List Nat) : String := ".".intercalate (octets.map toString)

/-- An IPv6 address as it is written. -/
def ipv6Text (groups : List Nat) : String :=
  if groups.take 6 == [0, 0, 0, 0, 0, 65535] then
    let low := groups.getD 6 0
    let high := groups.getD 7 0
    "::ffff:" ++ octetsText [low / 256, low % 256, high / 256, high % 256]
  else
    let (start, length) := longestZeroRun groups
    if length > 1 then
      groupsText (groups.take start) ++ "::" ++ groupsText (groups.drop (start + length))
    else groupsText groups

/-- A socket address as it is written. -/
def SocketAddress.text : SocketAddress → String
  | .v4 octets port => octetsText octets ++ ":" ++ toString port
  | .v6 groups scope port =>
    "[" ++ ipv6Text groups ++ (if scope == 0 then "" else "%" ++ toString scope) ++ "]:" ++ toString port

/-- The port of a socket address. -/
def SocketAddress.port : SocketAddress → Nat
  | .v4 _ port | .v6 _ _ port => port

/-- Whether an IPv6 address is a multicast address, in `ff00::/8`. -/
def isMulticast (groups : List Nat) : Bool := groups.getD 0 0 / 256 == 255

/-- Whether an IPv6 address is link-local, in `fe80::/10`: it means something only on one
interface. -/
def isLinkLocal (groups : List Nat) : Bool := groups.getD 0 0 / 64 == 1018

/-- Whether an IPv6 address is the unspecified one, `::`. -/
def isUnspecified (groups : List Nat) : Bool := groups.all (· == 0)

/-- Whether an IPv6 address is an IPv4 address mapped into IPv6, `::ffff:a.b.c.d`. -/
def isMappedIpv4 (groups : List Nat) : Bool := groups.take 6 == [0, 0, 0, 0, 0, 65535]

end SeatBilling.Net
