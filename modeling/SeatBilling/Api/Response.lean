import SeatBilling.Json.Value

/-!
# Responses

What the HTTP interface sends back: a status code, the content type if there is one, and a
body. A body is either a JSON document, sent with the type `application/json`, or plain
text; an empty body is empty text.
-/

namespace SeatBilling.Api

/-- The body of a response. -/
inductive Body where
  /-- A JSON document. -/
  | json (document : Json)
  /-- Plain text, possibly empty. -/
  | text (content : String)
  deriving Repr

/-- A response of the HTTP interface. -/
structure Response where
  /-- The status code. -/
  status : Nat
  /-- The `content-type` header, if the response has one. -/
  contentType : Option String
  /-- The body. -/
  body : Body
  deriving Repr

namespace Response

/-- The content type of JSON bodies. -/
def jsonType : String := "application/json"

/-- A JSON response. -/
def ofJson (status : Nat) (document : Json) : Response := ⟨status, some jsonType, .json document⟩

/-- A response with no body and no content type. -/
def empty (status : Nat) : Response := ⟨status, none, .text ""⟩

/-- A plain-text response. -/
def ofText (status : Nat) (content : String) : Response :=
  ⟨status, some "text/plain; charset=utf-8", .text content⟩

/-- The JSON response that reports an error: its message and its status code. -/
def problem (status : Nat) (message : String) : Response :=
  ofJson status (.obj [("code", .int status), ("error", .str message)])

end Response

end SeatBilling.Api
