import SeatBilling.Access.Snapshot

/-!
# Token claims

The claims of an access token name the user, the company and the role, when the token was
issued and when it expires (64-bit unix seconds), and optionally the state of the company's
subscription when it was issued. They are read twice from the same bytes:

* as `Claims` (`claimsRecord`): identifiers as strings in any accepted form, the role a
  string, the times 64-bit integers, the snapshot null or a snapshot; and
* as the registered claims (`registeredRecord`): the expiry and not-before times, the
  subject, the issuer and the audience. A value of the wrong kind there is only noted, not
  refused, and reading goes on from where it stopped.

In both readings a field given twice is refused, and other keys are passed over at any depth,
their text checked for its grammar alone.
-/

namespace SeatBilling.Auth

open SeatBilling.Json SeatBilling.Access

/-- What an access token says about its bearer. -/
structure Claims where
  user : Uuid
  company : Uuid
  role : String
  issuedAt : Int
  expiresAt : Int
  snapshot : Option Snapshot
  deriving DecidableEq, Repr

/-- The claims as a document. -/
def Claims.toJson (claims : Claims) : Json :=
  .obj ([("sub", .str claims.user.hyphenated), ("company_id", .str claims.company.hyphenated),
    ("role", .str claims.role), ("iat", .int claims.issuedAt), ("exp", .int claims.expiresAt)] ++
    match claims.snapshot with
    | some snapshot => [("subscription", snapshot.toJson)]
    | none => [])

/-! ## The claims -/

/-- Claims being read: each, once given. -/
structure ClaimsDraft where
  user : Option Uuid := none
  company : Option Uuid := none
  role : Option String := none
  issuedAt : Option Int := none
  expiresAt : Option Int := none
  snapshot : Option (Option Snapshot) := none

/-- Reads an identifier written as a string. -/
def readUuid : Reading Uuid :=
  readJudgedText "a UUID string" fun text =>
    match Uuid.parse? text with
    | some id => .ok id
    | none => .error ("UUID parsing failed: " ++ Uuid.whyInvalid text)

/-- Reads the snapshot a token carries, or `null`. -/
def readSnapshot : Reading (Option Snapshot) := do
  match ← readOptional (Snapshot.textRecord.read false) with
  | some (some snapshot) => pure (some snapshot)
  | _ => pure none

/-- How the claims are read; the snapshot may be left out. -/
def claimsRecord : Record ClaimsDraft (Option Claims) where
  name := "Claims"
  fields :=
    [ { name := "sub", aliases := [], required := true, isSet := (·.user.isSome),
        read := fun draft => do return { draft with user := some (← readUuid) } },
      { name := "company_id", aliases := [], required := true, isSet := (·.company.isSome),
        read := fun draft => do return { draft with company := some (← readUuid) } },
      { name := "role", aliases := [], required := true, isSet := (·.role.isSome),
        read := fun draft => do return { draft with role := some (← readText) } },
      { name := "iat", aliases := [], required := true, isSet := (·.issuedAt.isSome),
        read := fun draft => do return { draft with issuedAt := some (← readInt64) } },
      { name := "exp", aliases := [], required := true, isSet := (·.expiresAt.isSome),
        read := fun draft => do return { draft with expiresAt := some (← readInt64) } },
      { name := "subscription", aliases := [], required := false, isSet := (·.snapshot.isSome),
        read := fun draft => do return { draft with snapshot := some (← readSnapshot) } } ]
  empty := {}
  finish draft := do
    return ⟨← draft.user, ← draft.company, ← draft.role, ← draft.issuedAt, ← draft.expiresAt,
      draft.snapshot.getD none⟩

/-! ## The registered claims -/

/-- How a registered claim read: a value, a value that is not one, or none given (or
`null`). -/
inductive Registered (α : Type) where
  | parsed (value : α)
  | malformed
  | absent
  deriving DecidableEq, Repr

/-- Whether a registered claim holds a value. -/
def Registered.isParsed {α : Type} : Registered α → Bool
  | .parsed _ => true
  | _ => false

/-- The registered claims being read: each, once given. -/
structure RegisteredDraft where
  expiry : Option (Registered Nat) := none
  notBefore : Option (Registered Nat) := none
  subject : Option (Registered String) := none
  issuer : Option (Registered Json) := none
  audience : Option (Registered Json) := none

/-- A number as a time in whole seconds: a whole number from zero to `2 ^ 64 - 1` as itself, a
double from zero to below `2 ^ 64` rounded to the nearest, anything else no time. -/
def numericTime : Json → Registered Nat
  | .int value => if 0 ≤ value then .parsed value.toNat else .malformed
  | .real value =>
    if value.negative && !value.isZero then .malformed
    else
      let (num, den) := value.magnitude
      if num < Nat.pow 2 64 * den then .parsed value.roundHalfUp else .malformed
  | _ => .malformed

/-- Reads a scalar as a time; a number that cannot be read, or any other scalar, is no time.
An array or an object is no time when it is empty and stops the reading otherwise. -/
def readNumericTime : Reading (Registered Nat) := do
  match ← peekAfterBlank with
  | some 91 =>
    skipByte
    match ← peekAfterBlank with
    | some 93 => skipByte; pure .malformed
    | _ => failAhead .trailingCharacters
  | some 123 =>
    skipByte
    match ← peekAfterBlank with
    | some 125 => skipByte; pure .malformed
    | _ => failAhead .trailingCharacters
  | some 45 => skipByte; return ((← attempt (readNumber true)).map numericTime).getD .malformed
  | some 34 => skipByte; let _ ← attempt readString; pure .malformed
  | some byte =>
    if isDigitByte byte then
      return ((← attempt (readNumber false)).map numericTime).getD .malformed
    else do
      let _ ← attempt (readValue 1 1)
      pure .malformed
  | none => failAhead .eofInValue

/-- Reads the subject: `null` for none, a string, or another scalar, which is no subject. An
array or an object stops the reading. -/
def readSubject : Reading (Registered String) := do
  match ← peekAfterBlank with
  | some 110 => skipByte; word [117, 108, 108]; pure .absent
  | some 34 =>
    skipByte
    match ← attempt readString with
    | some text => pure (.parsed text)
    | none => pure .malformed
  | some 91 | some 123 => failAhead .trailingCharacters
  | some _ => let _ ← attempt (readValue 1 1); pure .malformed
  | none => failAhead .eofInValue

/-- How many levels of nesting a value inside the claims may still open: the claims object
takes one of the 128 that a document may have. -/
def claimValueDepth : Nat := 127

/-- Reads a value whole: `null` for none; a value that cannot be read (too deep, say) is none
of the claim, and reading goes on from where it stopped. -/
def readWholeClaim : Reading (Registered Json) := do
  match ← peekAfterBlank with
  | some 110 => skipByte; word [117, 108, 108]; pure .absent
  | _ =>
    match ← attempt (readValue ((← get).rest.length + 1) claimValueDepth) with
    | some value => pure (.parsed value)
    | none => pure .malformed

/-- Whether a value names an audience: a string, or an array of strings, empty or not. -/
def namesAudience : Json → Bool
  | .str _ => true
  | .arr items => items.all fun item => match item with
    | .str _ => true
    | _ => false
  | _ => false

/-- How the registered claims are read. -/
def registeredRecord : Record RegisteredDraft RegisteredDraft where
  name := "ClaimsForValidation"
  fields :=
    [ { name := "exp", aliases := [], required := false, isSet := (·.expiry.isSome),
        read := fun draft => do return { draft with expiry := some (← readNumericTime) } },
      { name := "nbf", aliases := [], required := false, isSet := (·.notBefore.isSome),
        read := fun draft => do return { draft with notBefore := some (← readNumericTime) } },
      { name := "sub", aliases := [], required := true, isSet := (·.subject.isSome),
        read := fun draft => do return { draft with subject := some (← readSubject) },
        mayBeNull := true },
      { name := "iss", aliases := [], required := true, isSet := (·.issuer.isSome),
        read := fun draft => do return { draft with issuer := some (← readWholeClaim) },
        mayBeNull := true },
      { name := "aud", aliases := [], required := true, isSet := (·.audience.isSome),
        read := fun draft => do return { draft with audience := some (← readWholeClaim) },
        mayBeNull := true } ]
  empty := {}
  finish draft := draft

/-- How long after its expiry time a token is still accepted, in seconds. -/
def leeway : Int := 60

/-- Whether the registered claims let a token through at `now`: the expiry is a time no more
than `leeway` before `now`, and no audience is named, since no token for this service may
name one. -/
def RegisteredDraft.accepts (draft : RegisteredDraft) (now : Int) : Bool :=
  let expiryFine := match draft.expiry with
    | some (.parsed expiry) => now - leeway ≤ expiry
    | _ => false
  let audienceNamed := match draft.audience with
    | some (.parsed value) => namesAudience value
    | _ => false
  expiryFine && !audienceNamed

end SeatBilling.Auth
