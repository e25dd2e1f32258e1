/-!
# Statuses and purposes

The states a subscription and an invoice pass through, and what an invoice pays for. Each
has one spelling, in snake case, used both to show and to read it; reading any other text
fails with the kind of value that was expected and the text itself.
-/

namespace SeatBilling

/-- Where a subscription stands. `expired` is final. -/
inductive SubscriptionStatus where
  | trial
  | active
  | pastDue
  | cancelled
  | expired
  deriving DecidableEq, Repr, Inhabited

/-- Where an invoice stands. Every status but `pending` is final. -/
inductive InvoiceStatus where
  | pending
  | paid
  | expired
  | cancelled
  deriving DecidableEq, Repr, Inhabited

/-- What an invoice pays for. -/
inductive InvoicePurpose where
  | checkout
  | upgrade
  | seatChange
  deriving DecidableEq, Repr, Inhabited

/-- A text that names no value of a closed set: the set's name and the text. -/
structure UnknownName where
  kind : String
  value : String
  deriving DecidableEq, Repr

/-- The message of an unknown name. -/
def UnknownName.message (unknown : UnknownName) : String :=
  "unknown " ++ unknown.kind ++ " '" ++ unknown.value ++ "'"

namespace SubscriptionStatus

/-- Every status, in the order they are declared. -/
def all : List SubscriptionStatus := [.trial, .active, .pastDue, .cancelled, .expired]

/-- The spelling of a status. -/
def name : SubscriptionStatus → String
  | .trial => "trial"
  | .active => "active"
  | .pastDue => "past_due"
  | .cancelled => "cancelled"
  | .expired => "expired"

/-- Whether no status follows this one. -/
def isTerminal : SubscriptionStatus → Bool
  | .expired => true
  | _ => false

/-- Reads a spelling. -/
def parse (text : String) : Except UnknownName SubscriptionStatus :=
  match all.find? (fun status => status.name == text) with
  | some status => .ok status
  | none => .error ⟨"subscription status", text⟩

end SubscriptionStatus

namespace InvoiceStatus

/-- Every status, in the order they are declared. -/
def all : List InvoiceStatus := [.pending, .paid, .expired, .cancelled]

/-- The spelling of a status. -/
def name : InvoiceStatus → String
  | .pending => "pending"
  | .paid => "paid"
  | .expired => "expired"
  | .cancelled => "cancelled"

/-- Whether the invoice is settled one way or another. -/
def isTerminal : InvoiceStatus → Bool
  | .pending => false
  | _ => true

/-- Reads a spelling. -/
def parse (text : String) : Except UnknownName InvoiceStatus :=
  match all.find? (fun status => status.name == text) with
  | some status => .ok status
  | none => .error ⟨"invoice status", text⟩

end InvoiceStatus

namespace InvoicePurpose

/-- Every purpose, in the order they are declared. -/
def all : List InvoicePurpose := [.checkout, .upgrade, .seatChange]

/-- The spelling of a purpose. -/
def name : InvoicePurpose → String
  | .checkout => "checkout"
  | .upgrade => "upgrade"
  | .seatChange => "seat_change"

/-- Reads a spelling. -/
def parse (text : String) : Except UnknownName InvoicePurpose :=
  match all.find? (fun purpose => purpose.name == text) with
  | some purpose => .ok purpose
  | none => .error ⟨"invoice purpose", text⟩

end InvoicePurpose

end SeatBilling
