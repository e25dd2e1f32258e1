import SeatBilling.Ledger.Subscription
import SeatBilling.Json.Decode

/-!
# Access snapshots

A token may carry a snapshot of its company's subscription, taken when the token was issued:
the status, the end of access (in whole unix seconds) and the plan's feature codes. A
snapshot only ever allows: when it alone allows a request the ledger is not asked, and in
every other case the ledger decides.

A snapshot is decoded from a document already read, where a complaint has no place in a text,
or straight from text (`Snapshot.textRecord`, as inside a token), where a field given twice is
a complaint too.
-/

namespace SeatBilling.Access

open SeatBilling.Time
open SeatBilling.Json

/-- A subscription's state as a token carries it. -/
structure Snapshot where
  status : SubscriptionStatus
  expiresAt : Moment
  features : List String
  deriving DecidableEq, Repr

/-- What a snapshot says about a request. -/
inductive FastCheck where
  | allow
  /-- Ask the ledger. -/
  | defer
  deriving DecidableEq, Repr

namespace Snapshot

/-- The snapshot of a subscription with its plan's feature codes. -/
def ofSubscription (subscription : Subscription) (features : List String) : Snapshot :=
  ⟨subscription.status, subscription.periodEnd, features⟩

/-- A snapshot allows a request while its status is not final and access has not ended. -/
def fastCheck (snapshot : Snapshot) (now : Moment) : FastCheck :=
  if !snapshot.status.isTerminal && decide (now < snapshot.expiresAt) then .allow else .defer

/-- A snapshot allows a feature when it allows a request and lists the feature. -/
def fastCheckFeature (snapshot : Snapshot) (code : String) (now : Moment) : FastCheck :=
  match snapshot.fastCheck now with
  | .allow => if snapshot.features.contains code then .allow else .defer
  | .defer => .defer

/-! ## Decoding -/

/-- The spellings of the statuses, as a complaint lists them. -/
def statusChoices : String :=
  "one of " ++ ", ".intercalate (SubscriptionStatus.all.map (fun status => "`" ++ status.name ++ "`"))

/-- A status, by its spelling. -/
def statusNamed (name : String) : Verdict SubscriptionStatus :=
  match SubscriptionStatus.all.find? (·.name == name) with
  | some status => .ok status
  | none => .error ("unknown variant `" ++ name ++ "`, expected " ++ statusChoices)

/-- Decodes a status: its spelling, or an object with the spelling as its one key and
`null` as its value. -/
def decodeStatus : Json → Verdict SubscriptionStatus
  | .str name => statusNamed name
  | .obj [(name, value)] => do
    let status ← statusNamed name
    match value with
    | .null => pure status
    | other => .error (invalidType (.ofValue other) "unit")
  | .obj _ => .error "invalid value: map, expected map with a single key"
  | other => .error (invalidType (.ofValue other) "string or map")

/-- The first and last whole unix seconds of the calendar. -/
def firstUnixSecond : Int := -377705116800
def lastUnixSecond : Int := 253402300799

/-- Decodes the end of access: whole unix seconds, in the calendar's range. -/
def decodeExpiry : Json → Verdict Moment
  | .int seconds =>
    if seconds > 9223372036854775807 then
      .error ("invalid value: integer `" ++ toString seconds ++ "`, expected i64")
    else
      match (if firstUnixSecond ≤ seconds && seconds ≤ lastUnixSecond then Moment.ofUnixSeconds? seconds
          else none) with
      | some moment => .ok moment
      | none => .error "invalid timestamp, expected an in-range value"
  | other => .error (invalidType (.ofValue other) "i64")

/-- Decodes the feature codes: a sequence of strings. -/
def decodeFeatures : Json → Verdict (List String)
  | .arr items => items.mapM fun
    | .str code => .ok code
    | other => .error (invalidType (.ofValue other) "a string")
  | other => .error (invalidType (.ofValue other) "a sequence")

/-- A snapshot being decoded: each field, once given. -/
structure Draft where
  status : Option SubscriptionStatus
  expiresAt : Option Moment
  features : Option (List String)

/-- Decodes one member of an object into a draft; other keys are passed over. -/
def Draft.take (draft : Draft) : String × Json → Verdict Draft
  | ("status", value) => do return { draft with status := some (← decodeStatus value) }
  | ("subscription_expires_at", value) => do return { draft with expiresAt := some (← decodeExpiry value) }
  | ("features", value) => do return { draft with features := some (← decodeFeatures value) }
  | _ => .ok draft

/-- Decodes a snapshot from an object (members in key order) or from an array holding the
fields in order. -/
def decode : Json → Verdict Snapshot
  | .obj members => do
    let draft ← members.foldlM Draft.take ⟨none, none, none⟩
    let some status := draft.status | .error "missing field `status`"
    let some expiresAt := draft.expiresAt | .error "missing field `subscription_expires_at`"
    pure ⟨status, expiresAt, draft.features.getD []⟩
  | .arr items => do
    let expected := "struct AccessSnapshot with 3 elements"
    let some first := items[0]? | .error (invalidLength 0 expected)
    let status ← decodeStatus first
    let some second := items[1]? | .error (invalidLength 1 expected)
    let expiresAt ← decodeExpiry second
    let features ← match items[2]? with
      | some third => decodeFeatures third
      | none => pure []
    if items.length > 3 then .error (invalidLength items.length "fewer elements in array")
    else pure ⟨status, expiresAt, features⟩
  | other => .error (invalidType (.ofValue other) "struct AccessSnapshot")

/-! ## Decoding from text -/

/-- Reads a status: its spelling, or an object with the spelling as its one key and `null` as
its value. -/
def readStatus : Reading SubscriptionStatus := do
  let names := SubscriptionStatus.all.map (·.name)
  let name ← readChoice names
  match SubscriptionStatus.all.find? (·.name == name) with
  | some status => pure status
  | none => complain (unknownVariant name names)

/-- Reads the end of access: whole unix seconds, in the calendar's range. -/
def readExpiry : Reading Moment := do
  settle (decodeExpiry (.int (← readInt64)))

/-- A snapshot being read from text: each field, once given. -/
abbrev TextDraft := Option SubscriptionStatus × Option Moment × Option (List String)

/-- How a snapshot is read straight from text: status and end of access must be given, the
features may be left out. -/
def textRecord : Record TextDraft (Option Snapshot) where
  name := "AccessSnapshot"
  fields :=
    [ { name := "status", aliases := [], required := true, isSet := (·.1.isSome),
        read := fun draft => do return (some (← readStatus), draft.2) },
      { name := "subscription_expires_at", aliases := [], required := true, isSet := (·.2.1.isSome),
        read := fun draft => do return (draft.1, some (← readExpiry), draft.2.2) },
      { name := "features", aliases := [], required := false, isSet := (·.2.2.isSome),
        read := fun draft => do return (draft.1, draft.2.1, some (← readTextList)) } ]
  empty := (none, none, none)
  finish draft := do return ⟨← draft.1, ← draft.2.1, draft.2.2.getD []⟩

/-- A snapshot as a document. -/
def toJson (snapshot : Snapshot) : Json :=
  .obj [("features", .arr (snapshot.features.map Json.str)), ("status", .str snapshot.status.name),
    ("subscription_expires_at", .int snapshot.expiresAt.unixSeconds)]

end Snapshot

end SeatBilling.Access
