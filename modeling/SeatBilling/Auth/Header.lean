import SeatBilling.Json.Decode

/-!
# Token headers

The header of an access token names its signing algorithm and may carry key material: a
type, a content type, key addresses and identifiers, certificate chains and thumbprints, and
a JSON Web Key. It is written as an object, whose fields other than the algorithm may be left
out, or as an array of all ten fields in order; a field given twice is refused, and keys the
header does not know are passed over at any depth, their text checked for its grammar alone.
`headerNamesHs256` accepts the header when it reads as such a record and names HS256.

A JSON Web Key is an object. Its common members (use, operations, algorithm, key id and the
certificate members) are each given at most once and well formed; its other members describe
one key of a known type, each needed member given once and a string: an elliptic curve key
(`EC`, a curve, `x`, `y`), an RSA key (`RSA`, `n`, `e`), an octet key (`oct`, `k`) or an octet
key pair (`OKP`, a curve, `x`). Values inside a key are read whole, within the nesting limit.
-/

namespace SeatBilling.Auth

open SeatBilling.Json

/-- The signing algorithms a header may name. -/
def algorithmNames : List String :=
  ["HS256", "HS384", "HS512", "ES256", "ES384", "RS256", "RS384", "RS512", "PS256", "PS384",
    "PS512", "EdDSA"]

/-- The algorithms a key may name: the signing algorithms and three for encryption. -/
def keyAlgorithmNames : List String := algorithmNames ++ ["RSA1_5", "RSA-OAEP", "RSA-OAEP-256"]

/-- The key operations with names of their own; any other string names an operation too. -/
def keyOperationNames : List String :=
  ["sign", "verify", "encrypt", "decrypt", "wrapKey", "unwrapKey", "deriveKey", "deriveBits"]

/-- The curves a key may lie on. -/
def curveNames : List String := ["P-256", "P-384", "P-521", "Ed25519"]

/-! ## Keys -/

/-- Whether a value is a string. -/
def isText : Json → Bool
  | .str _ => true
  | _ => false

/-- Whether a value is `null` or a string. -/
def isOptionalText : Json → Bool
  | .null | .str _ => true
  | _ => false

/-- Whether a value names one of `names`: the name as a string, or an object whose one member
has the name as its key and `null` as its value. -/
def namesChoice (names : List String) : Json → Bool
  | .str name => names.contains name
  | .obj [(name, .null)] => names.contains name
  | _ => false

/-- Whether a value names a key operation: any string, or a named operation as a choice. -/
def namesOperation (value : Json) : Bool := isText value || namesChoice keyOperationNames value

/-- What a common member of a key may hold, for the keys that name one. -/
def commonMember? (key : String) : Option (Json → Bool) :=
  match key with
  | "use" | "kid" | "x5u" | "x5t" | "x5t#S256" => some isOptionalText
  | "key_ops" => some fun
    | .null => true
    | .arr items => items.all namesOperation
    | _ => false
  | "alg" => some fun
    | .null => true
    | other => namesChoice keyAlgorithmNames other
  | "x5c" => some fun
    | .null => true
    | .arr items => items.all isText
    | _ => false
  | _ => none

/-- A type of key: the spelling of the type and the members it needs, each with what it may
hold. -/
structure KeyShape where
  typeName : String
  needs : List (String × (Json → Bool))

/-- The types of key, in the order they are tried. -/
def keyShapes : List KeyShape :=
  [ ⟨"EC", [("crv", namesChoice curveNames), ("x", isText), ("y", isText)]⟩,
    ⟨"RSA", [("n", isText), ("e", isText)]⟩,
    ⟨"oct", [("k", isText)]⟩,
    ⟨"OKP", [("crv", namesChoice curveNames), ("x", isText)]⟩ ]

/-- Whether members describe a key of the shape: `kty` and each needed member given exactly
once and well formed; other members are passed over. -/
def KeyShape.fits (shape : KeyShape) (members : List (String × Json)) : Bool :=
  (("kty", namesChoice [shape.typeName]) :: shape.needs).all fun (name, holds) =>
    match members.filter (·.1 == name) with
    | [(_, value)] => holds value
    | _ => false

/-- Whether the members of an object make a key: the common members each once and well
formed, and the others fitting one type of key. -/
def keyAccepted (members : List (String × Json)) : Bool :=
  let (common, rest) := members.partition fun member => (commonMember? member.1).isSome
  let commonFine := common.all fun (key, value) =>
    (common.filter (·.1 == key)).length == 1 && ((commonMember? key).map (· value)).getD false
  commonFine && keyShapes.any (·.fits rest)

/-- How many levels of nesting the values inside a key may still open: the header and the key
take two of the 128 that a document may have. -/
def keyValueDepth : Nat := 126

/-- Reads a JSON Web Key and checks it. -/
def readKey : Reading Unit := do
  match ← peekAfterBlank with
  | some 123 =>
    skipByte
    let members ← rawMembers keyValueDepth ((← get).rest.length + 1) true []
    closeObject
    unless keyAccepted members do
      complain "data did not match any variant of untagged enum AlgorithmParameters"
  | some _ => wrongKindAhead "struct Jwk"
  | none => failAhead .eofInValue

/-! ## Headers -/

/-- A header being read: the fields given so far, and the algorithm once named. -/
abbrev HeaderDraft := List String × Option String

/-- A field of the header that may stand as null: `reading` checks its value. -/
def headerField (name : String) (reading : Reading Unit) : Json.Field HeaderDraft :=
  { name := name, aliases := [], required := true, isSet := (·.1.contains name),
    read := fun draft => do reading; return (name :: draft.1, draft.2), mayBeNull := true }

/-- A field of the header that holds a string or null. -/
def textField (name : String) : Json.Field HeaderDraft :=
  headerField name (do let _ ← readOptional readText)

/-- The field that names the algorithm. -/
def algorithmField : Json.Field HeaderDraft :=
  { name := "alg", aliases := [], required := true, isSet := (·.1.contains "alg"),
    read := fun draft => do return ("alg" :: draft.1, some (← readChoice algorithmNames)) }

/-- How a header is read. -/
def headerRecord : Record HeaderDraft (Option String) where
  name := "Header"
  fields :=
    [ textField "typ", algorithmField, textField "cty", textField "jku",
      headerField "jwk" (do let _ ← readOptional readKey), textField "kid", textField "x5u",
      headerField "x5c" (do let _ ← readOptional readTextList), textField "x5t",
      textField "x5t#S256" ]
  empty := ([], none)
  finish draft := draft.2

/-- Whether the bytes of a header read as a header that names HS256. -/
def headerNamesHs256 (bytes : List UInt8) : Bool :=
  match headerRecord.decodeBytes bytes with
  | .ok (some "HS256") => true
  | _ => false

end SeatBilling.Auth
