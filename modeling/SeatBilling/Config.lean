import SeatBilling.Time.Moment

/-!
# Billing configuration

The settings of the billing core: the secret the payment provider sends back with every
callback, where the provider is and the key it wants, the lengths of a billing period, a
trial, the grace period after a lapse and an invoice's life, and how long one record may
take in a sweep.
-/

namespace SeatBilling

open SeatBilling.Time

/-- The settings of the billing core. -/
structure Config where
  /-- The secret the provider sends with each callback. -/
  callbackToken : String
  providerUrl : String
  providerSecretKey : String
  /-- Where the provider's payment page sends the payer afterwards. -/
  successRedirectUrl : Option String
  period : Span
  trial : Span
  /-- How long a lapsed subscription keeps its status before it expires. -/
  gracePeriod : Span
  /-- How long an invoice waits for payment. -/
  invoiceTtl : Span
  /-- Seconds one record may take in a sweep. -/
  recordTimeout : Nat
  deriving DecidableEq, Repr

/-- Thirty-day periods, two-week trials, a week of grace, invoices open for a day, and ten
seconds per swept record. -/
def Config.standard (callbackToken : String) : Config where
  callbackToken := callbackToken
  providerUrl := ""
  providerSecretKey := ""
  successRedirectUrl := none
  period := ⟨30 * 86400⟩
  trial := ⟨14 * 86400⟩
  gracePeriod := ⟨7 * 86400⟩
  invoiceTtl := ⟨24 * 3600⟩
  recordTimeout := 10

end SeatBilling
