import SeatBilling.Crypto.Hmac
import SeatBilling.Encoding.Base64Url
import SeatBilling.Auth.Header
import SeatBilling.Auth.Claims

/-!
# Access tokens

An access token is a JSON Web Token signed with HMAC-SHA256: three base64url parts joined by
dots, the header, the claims and the signature of the first two parts (`Auth.Header`,
`Auth.Claims`).

A token is accepted when

* its header reads as a header and names the HS256 algorithm,
* its signature is the one the secret gives,
* its claims read as claims and as registered claims, and
* it expires no more than a minute (`leeway`) before the time it is checked, and names no
  audience.
-/

namespace SeatBilling.Auth

open SeatBilling.Json SeatBilling.Access SeatBilling.Encoding

/-- The largest 64-bit signed integer. -/
def maxInt64 : Int := 9223372036854775807

/-- The smallest 64-bit signed integer. -/
def minInt64 : Int := -9223372036854775808

/-- The header of every token issued. -/
def headerText : String := "\x7b\"typ\":\"JWT\",\"alg\":\"HS256\"\x7d"

/-- The UTF-8 bytes of a text. -/
def bytesOf (text : String) : List UInt8 := text.toUTF8.toList

/-- The signature part for the first two parts of a token. -/
def signature (secret message : String) : String :=
  Base64Url.encodeString (Crypto.hmacSha256 (bytesOf secret) (bytesOf message))

/-- The token that carries `claims`, signed with `secret`. -/
def issue (secret : String) (claims : Claims) : String :=
  let message := Base64Url.encodeString (bytesOf headerText) ++ "." ++
    Base64Url.encodeString (bytesOf claims.toJson.render)
  message ++ "." ++ signature secret message

/-- The expiry time of a token issued at `now` for `hours` hours, unless the span overflows
64 bits of seconds or the time falls outside the calendar's years. -/
def expiryAfter (now hours : Int) : Option Int :=
  let seconds := hours * 3600
  let expiry := now + seconds
  if seconds < minInt64 || maxInt64 < seconds then none
  else if expiry < Snapshot.firstUnixSecond || Snapshot.lastUnixSecond < expiry then none
  else some expiry

/-! ## Reading a token -/

/-- A token's header, claims and signature parts: the signature follows the last dot, the
claims the dot before it. -/
def parts (token : String) : Option (String × String × String) :=
  let pieces := token.splitOn "."
  match pieces.reverse with
  | signed :: claims :: header@(_ :: _) => some (String.intercalate "." header.reverse, claims, signed)
  | _ => none

/-- The claims of a token signed with `secret`, checked at `now` (unix seconds), if it is
accepted. -/
def verify (secret : String) (now : Int) (token : String) : Option Claims := do
  let (header, claimsPart, signed) ← parts token
  guard (headerNamesHs256 (← Base64Url.decode header.toList))
  guard (signed == signature secret (header ++ "." ++ claimsPart))
  let bytes ← Base64Url.decode claimsPart.toList
  let claims ← (claimsRecord.decodeBytes bytes).toOption.join
  let registered ← (registeredRecord.decodeBytes bytes).toOption
  guard (registered.accepts now)
  return claims

end SeatBilling.Auth
