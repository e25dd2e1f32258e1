/-!
# Requests

A request to the HTTP interface: its method, its target (a path, possibly followed by `?` and
a query), its headers by lowercase name, and its body.

A method is a token: letters, digits and ``!#$%&'*+-.^_`|~``, at least one of them. A header
name is a token of at most 65535 characters, and letters in it stand for their lowercase
forms; a header value may hold any character but the control characters other than tab and
DEL. A header is read as text only when it holds visible ASCII characters, spaces and tabs. The
bearer token comes from an `authorization` header that starts with `Bearer ` (one space, that
case); when there is none, from the first `hrcore_auth_token=` entry of the `cookie` header.
-/

namespace SeatBilling.Api

/-- A request to the HTTP interface. -/
structure Request where
  method : String
  target : String
  /-- The headers, each name lowercase and given once. -/
  headers : List (String × String)
  body : String
  deriving Repr

namespace Request

/-- The path of the target: what comes before the query. -/
def path (request : Request) : String :=
  String.ofList (request.target.toList.takeWhile (· != '?'))

/-- The value of a header, if the request has it. -/
def header? (request : Request) (name : String) : Option String :=
  (request.headers.find? (·.1 == name)).map Prod.snd

end Request

/-- Whether a character may stand in a token: a method, a header name, a media type. -/
def tokenChar (char : Char) : Bool :=
  char.isAlphanum || "!#$%&'*+-.^_`|~".toList.contains char

/-- Whether a method is well formed. -/
def methodValid (method : String) : Bool := !method.isEmpty && method.toList.all tokenChar

/-- The longest header name. -/
def longestHeaderName : Nat := 65535

/-- A header name as it is stored, lowercase, if it is well formed. -/
def headerName? (name : String) : Option String :=
  if name.isEmpty || name.length > longestHeaderName || !name.toList.all tokenChar then none
  else some name.toLower

/-- Whether a header value may be sent. -/
def headerValueValid (value : String) : Bool :=
  value.toList.all fun char => char == '\t' || (32 ≤ char.toNat && char.toNat != 127)

/-- Whether a header character is visible ASCII, a space or a tab. -/
def visibleChar (char : Char) : Bool := char == '\t' || (32 ≤ char.toNat && char.toNat < 127)

/-- A header value as text, if it holds only visible ASCII characters, spaces and tabs. -/
def visibleText? (value : String) : Option String :=
  if value.toList.all visibleChar then some value else none

/-- The rest of `text` after `start`, if it starts so. -/
def afterPrefix? (start text : String) : Option String :=
  if start.toList.isPrefixOf text.toList then some (String.ofList (text.toList.drop start.length))
  else none

/-- A text without the spaces and tabs at its ends. -/
def trimBlanks (text : String) : String :=
  let blank := fun (char : Char) => char == ' ' || char == '\t'
  String.ofList ((text.toList.dropWhile blank).reverse.dropWhile blank).reverse

/-- The name of the cookie that carries an access token. -/
def tokenCookie : String := "hrcore_auth_token"

/-- The access token of the first `hrcore_auth_token` entry of a cookie header. -/
def cookieToken? (cookies : String) : Option String :=
  ((cookies.splitOn ";").map trimBlanks).findSome? (afterPrefix? (tokenCookie ++ "="))

/-- The bearer token of a request: from the `authorization` header if it starts with
`Bearer `, else from the token cookie. -/
def Request.bearerToken? (request : Request) : Option String :=
  match ((request.header? "authorization").bind visibleText?).bind (afterPrefix? "Bearer ") with
  | some token => some token
  | none => ((request.header? "cookie").bind visibleText?).bind cookieToken?

end SeatBilling.Api
