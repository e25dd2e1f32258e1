import SeatBilling.Api.Request
import SeatBilling.Api.Response
import SeatBilling.Json.Decode
import SeatBilling.Ident.Uuid

/-!
# Reading the parts of a request

A handler reads what it needs from the request before it runs: parameters from the path and
a JSON body. When a part cannot be read the request is rejected with a plain-text response:

* a body without a JSON media type (`application/json`, or any `application/…+json`) is
  refused with 415;
* a body that is not JSON text is refused with 400, one of the wrong shape with 422; the text
  names the key or item where the problem was met;
* a path parameter is percent-decoded; one that is not UTF-8, or does not read as the value
  the handler expects, is refused with 400.
-/

namespace SeatBilling.Api

open SeatBilling.Json

/-- Why a part of a request could not be read. -/
inductive Rejection where
  | missingJsonContentType
  | malformedJson (message : String)
  | mismatchedJson (message : String)
  | invalidUtf8InPath (key : String)
  | unparsablePath (key value message : String)
  deriving DecidableEq, Repr

/-- The response to a rejected request. -/
def Rejection.response : Rejection → Response
  | .missingJsonContentType => Response.ofText 415 "Expected request with `Content-Type: application/json`"
  | .malformedJson message => Response.ofText 400 ("Failed to parse the request body as JSON: " ++ message)
  | .mismatchedJson message =>
    Response.ofText 422 ("Failed to deserialize the JSON body into the target type: " ++ message)
  | .invalidUtf8InPath key => Response.ofText 400 ("Invalid URL: Invalid UTF-8 in `" ++ key ++ "`")
  | .unparsablePath key value message =>
    Response.ofText 400 ("Invalid URL: Cannot parse `" ++ key ++ "` with value `" ++ value ++ "`: " ++ message)

/-! ## Media types -/

/-- Whether a character may stand inside a quoted parameter value. -/
def quotableChar (char : Char) : Bool := char.toNat > 31 && char.toNat != 127

/-- What follows a quoted parameter value, given what follows its opening quote: the value
ends at the first quote after at least one character, and holds no control character. -/
def afterQuoted : List Char → Bool → Option (List Char)
  | [], _ => none
  | char :: rest, first =>
    if char == '"' && !first then some rest
    else if quotableChar char then afterQuoted rest false
    else none

/-- Whether the parameters after a semicolon are well formed: each is a name, `=`, and a
token or a quoted text; blanks may lead a name and follow a quoted text. -/
def paramsValid : Nat → List Char → Bool
  | 0, _ => true
  | fuel + 1, chars =>
    match chars.dropWhile (· == ' ') with
    | [] => true
    | rest =>
      let name := rest.takeWhile tokenChar
      match rest.drop name.length with
      | '=' :: value =>
        if name.isEmpty then false
        else
          match value with
          | '"' :: quoted =>
            match afterQuoted quoted true with
            | none => false
            | some after =>
              match after.dropWhile (· == ' ') with
              | [] => true
              | ';' :: more => paramsValid fuel more
              | _ => false
          | _ =>
            let token := value.takeWhile tokenChar
            match value.drop token.length with
            | [] => true
            | ';' :: more => !token.isEmpty && paramsValid fuel more
            | _ => false
      | _ => false

/-- The type, the subtype and the suffix (after the last `+` of the subtype) of a media type,
lowercased, if it is well formed. -/
def mediaType? (text : String) : Option (String × String × Option String) :=
  let chars := text.toList.map Char.toLower
  let kind := chars.takeWhile tokenChar
  match chars.drop kind.length with
  | '/' :: afterSlash =>
    if kind.isEmpty then none
    else
      let sub := afterSlash.takeWhile tokenChar
      let valid := match afterSlash.drop sub.length with
        | [] => true
        | ';' :: params => !sub.isEmpty && paramsValid (params.length + 1) params
        | _ => false
      if !valid then none
      else
        -- a plus sign opening the subtype does not start a suffix
        let plusAt := (List.range sub.length).reverse.find? fun index => index > 0 && sub.getD index ' ' == '+'
        match plusAt with
        | some index =>
          some (String.ofList kind, String.ofList (sub.take index), some (String.ofList (sub.drop (index + 1))))
        | none => some (String.ofList kind, String.ofList sub, none)
  | _ => none

/-- Whether a `content-type` value names JSON: the type `application` with the subtype or
the suffix `json`. -/
def namesJson (value : String) : Bool :=
  match mediaType? value with
  | some (kind, sub, suffix) => kind == "application" && (sub == "json" || suffix == some "json")
  | none => false

/-! ## Bodies -/

/-- The record a request's JSON body holds. -/
def jsonBody {σ α : Type} (record : Record σ α) (request : Request) : Except Rejection α :=
  let typed := ((request.header? "content-type").bind visibleText?).map namesJson
  if typed != some true then .error .missingJsonContentType
  else
    match record.decodeTraced request.body with
    | .ok value => .ok value
    | .error problem =>
      if problem.problem.isComplaint then .error (.mismatchedJson problem.message)
      else .error (.malformedJson problem.message)

/-! ## Path parameters -/

/-- The bytes a percent-encoded text stands for: `%` and two hexadecimal digits stand for one
byte; every other byte, a lone `%` included, stands for itself. -/
def percentDecode : List UInt8 → List UInt8
  | 37 :: high :: low :: rest =>
    match hexValue high, hexValue low with
    | some h, some l => (h * 16 + l).toUInt8 :: percentDecode rest
    | _, _ => 37 :: percentDecode (high :: low :: rest)
  | byte :: rest => byte :: percentDecode rest
  | [] => []

/-- The text of a path parameter, percent-decoded, if it is UTF-8. -/
def pathText (key raw : String) : Except Rejection String :=
  match String.fromUTF8? (ByteArray.mk (percentDecode raw.toUTF8.toList).toArray) with
  | some text => .ok text
  | none => .error (.invalidUtf8InPath key)

/-- An identifier given as a path parameter. -/
def pathUuid (key raw : String) : Except Rejection Uuid := do
  let text ← pathText key raw
  match Uuid.parse? text with
  | some id => .ok id
  | none => .error (.unparsablePath key text ("UUID parsing failed: " ++ Uuid.whyInvalid text))

end SeatBilling.Api
