/-!
# Request targets

A request names what it asks for with a target, written in one of four forms:

* `*`;
* a path starting with `/`, then optionally `?` and a query;
* an authority alone (`host`, `host:port`, `user@host`, `[v6]:port`), which has no path;
* an absolute form, a scheme and `://`, an authority that is not empty, then optionally a path
  and a query. The schemes `http` and `https` are recognised in any case; another scheme is a
  letter or digit run with `+`, `-` and `.` of at most 64 characters, and `://` must follow it.

A fragment after `#` is dropped. A path may hold the characters that need no escaping in a
path, `"`, `{` and `}`, and anything beyond ASCII; a query may hold the visible ASCII
characters but `"`, `#`, `<` and `>`, and anything beyond ASCII. An authority holds only the
characters a URI allows, brackets around one IPv6 address, at most one colon after them,
nothing but a host after an `@`, and `%` only before an `@`. An empty target, or one longer than
65534 bytes, is none.

The path a target routes to is the path itself; `/` for an absolute form without one; and the
empty path for an authority alone.
-/

namespace SeatBilling.Api

/-- A request target once read: the path it routes to and its query, if any. -/
structure Target where
  path : String
  query : Option String
  deriving DecidableEq, Repr

namespace Target

/-- Whether a character may stand in a path as it is. -/
def pathChar (char : Char) : Bool :=
  let code := char.toNat
  code == 0x21 || code == 0x22 || (0x24 ≤ code && code ≤ 0x3B) || code == 0x3D ||
    (0x40 ≤ code && code ≤ 0x5F) || (0x61 ≤ code && code ≤ 0x7E) || 0x7F ≤ code

/-- Whether a character may stand in a query as it is. -/
def queryChar (char : Char) : Bool :=
  let code := char.toNat
  code == 0x21 || (0x24 ≤ code && code ≤ 0x3B) || code == 0x3D || 0x3F ≤ code

/-- Whether a character may stand in an authority: the characters a URI allows but `%`, which
an authority treats on its own. -/
def uriChar (char : Char) : Bool :=
  char.isAlphanum || "!#$&'()*+,-./:;=?@[]_~".toList.contains char

/-- Whether a character may stand in a scheme. -/
def schemeChar (char : Char) : Bool := char.isAlphanum || char == '+' || char == '-' || char == '.'

/-- The longest scheme other than `http` and `https`. -/
def longestScheme : Nat := 64

/-- Reads a path and its query; the fragment is dropped unread. -/
def readPathAndQuery (chars : List Char) : Option Target :=
  let path := chars.takeWhile fun char => char != '?' && char != '#'
  if !path.all pathChar then none
  else
    match chars.drop path.length with
    | '?' :: rest =>
      let query := rest.takeWhile (· != '#')
      if query.all queryChar then some ⟨String.ofList path, some (String.ofList query)⟩ else none
    | _ => some ⟨String.ofList path, none⟩

/-- What an authority has shown while it is read: the colons since the last `@` or `]`, the
brackets opened and closed, and whether a `%` stands since the last `@` or `]`. -/
structure AuthorityScan where
  colons : Nat := 0
  opened : Bool := false
  closed : Bool := false
  percent : Bool := false
  deriving Repr

/-- Reads the characters of an authority from `scan`, up to the first `/`, `?` or `#`; gives
how many it read, or `none` when they are no authority. `lastAt` tells whether the last
character read was `@`. -/
def authorityLength (scan : AuthorityScan) (read : Nat) (lastAt : Bool) :
    List Char → Option Nat
  | [] => authorityEnd scan read lastAt
  | char :: rest =>
    if char == '/' || char == '?' || char == '#' then authorityEnd scan read lastAt
    else if char == ':' then
      if scan.colons ≥ 8 then none
      else authorityLength { scan with colons := scan.colons + 1 } (read + 1) false rest
    else if char == '[' then
      if scan.percent || scan.opened then none
      else authorityLength { scan with opened := true } (read + 1) false rest
    else if char == ']' then
      if !scan.opened || scan.closed then none
      else authorityLength { scan with closed := true, colons := 0, percent := false } (read + 1) false rest
    else if char == '@' then
      authorityLength { scan with colons := 0, percent := false } (read + 1) true rest
    else if char == '%' then authorityLength { scan with percent := true } (read + 1) false rest
    else if uriChar char then authorityLength scan (read + 1) false rest
    else none
where
  /-- Checks an authority once its end is reached. -/
  authorityEnd (scan : AuthorityScan) (read : Nat) (lastAt : Bool) : Option Nat :=
    if scan.opened != scan.closed || scan.colons > 1 || (read > 0 && lastAt) || scan.percent then none
    else some read

/-- How a target starts: with `http://` or `https://` in any case, with another scheme and
`://`, or with no scheme. -/
inductive SchemeStart where
  | none
  | skip (length : Nat)
  | tooLong
  deriving DecidableEq, Repr

/-- Finds a scheme other than `http` and `https`: a run of scheme characters ended by `:`
and `//`. -/
def otherScheme (chars : List Char) : Nat → List Char → SchemeStart
  | _, [] => .none
  | index, char :: rest =>
    if char == ':' then
      match rest with
      | '/' :: '/' :: _ => if index > longestScheme then .tooLong else .skip (index + 3)
      | _ => .none
    else if schemeChar char then otherScheme chars (index + 1) rest
    else .none

/-- How a target of more than one character starts. -/
def schemeStart (chars : List Char) : SchemeStart :=
  let lower := chars.map Char.toLower
  if "http://".toList.isPrefixOf lower then .skip 7
  else if "https://".toList.isPrefixOf lower then .skip 8
  else if chars.length > 3 then otherScheme chars 0 chars
  else .none

/-- Reads a target of more than one character that does not start with `/`. -/
def readFull (chars : List Char) : Option Target :=
  match schemeStart chars with
  | .tooLong => none
  | .none => do
    let length ← authorityLength {} 0 false chars
    if length == chars.length then some ⟨"", none⟩ else none
  | .skip length => do
    let rest := chars.drop length
    let authority ← authorityLength {} 0 false rest
    if authority == 0 then none
    else
      let target ← readPathAndQuery (rest.drop authority)
      some (if target.path.isEmpty then { target with path := "/" } else target)

/-- The longest target, in bytes. -/
def longestTarget : Nat := 65534

/-- Reads a request target. -/
def parse? (text : String) : Option Target :=
  let chars := text.toList
  if text.utf8ByteSize > longestTarget then none
  else
    match chars with
    | [] => none
    | ['/'] => some ⟨"/", none⟩
    | ['*'] => some ⟨"*", none⟩
    | [_] => do
      let length ← authorityLength {} 0 false chars
      if length == 1 then some ⟨"", none⟩ else none
    | '/' :: _ => readPathAndQuery chars
    | _ => readFull chars

/-- The target as the routes see it: the path, then `?` and the query if there is one. -/
def text (target : Target) : String :=
  match target.query with
  | some query => target.path ++ "?" ++ query
  | none => target.path

end Target

end SeatBilling.Api
