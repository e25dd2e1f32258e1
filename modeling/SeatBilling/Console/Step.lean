import SeatBilling.Console.Records
import SeatBilling.Documents

/-!
# Console commands

A command reads its fields, binding the labels they name as it goes, and runs the billing
core. A command refused while its fields are read leaves the console as it was, but for the
labels it bound before. Answers that list records whose order in the store carries no meaning
are put in an order of their own: by the order in which the records' labels were bound, a
record no label names yet coming first (last in the sweep's report).
-/

namespace SeatBilling.Console

open SeatBilling.Time
open SeatBilling.Documents

/-- A command being carried out: it may be refused. -/
abbrev Step := ExceptT Refusal ConsoleM

/-- A value read from a command's fields, or the refusal. -/
def need {α : Type} : Except Refusal α → Step α
  | .ok value => pure value
  | .error message => throw message

/-- The company a command names in `key`, registered on first mention. -/
def companyAt (command : Json) (key : String) : Step Uuid := do
  bindCompany (← need (text command key))

/-- The company a command names in `company`, registered on first mention. -/
def companyOf (command : Json) : Step Uuid := companyAt command "company"

/-- The identifier of the label a command names in `key`. -/
def labelIdOf (command : Json) (key : String) : Step Uuid := do
  bindLabel (← need (text command key))

/-- The answer of an operation of the billing core. -/
def billing {α : Type} (action : BillingM α) (write : α → Option Json) : Step Answer :=
  answerWith action write

/-- The answer of an operation of the billing core whose value needs no time. -/
def billingPlain {α : Type} (action : BillingM α) (write : α → Json) : Step Answer :=
  billing action (fun value => some (write value))

/-- The answer for a snapshot that does not decode. -/
def undecodable (message : String) : Answer := .raised "DeserializeError" message []

/-- The place of a record's label in the binding order, counted from one; a record without a
label comes before every labelled one, at zero. -/
def rankOf (id : Uuid) : ConsoleM Nat := do
  return (((← get).labels.rankOf id).map (· + 1)).getD 0

/-- Items in order of their ranks, stable among equals. -/
def sortByRank {α : Type} (ranked : List (Nat × α)) : List α :=
  (ranked.mergeSort (fun first second => first.1 ≤ second.1)).map Prod.snd

/-- Records in the order of their labels' binding, stable among equals; records without a
label, or without an identifier, come first. -/
def byRank {α : Type} (id : α → Option Uuid) (items : List α) : ConsoleM (List α) := do
  let ranked ← items.mapM fun item => do
    match id item with
    | some found => return (← rankOf found, item)
    | none => return (0, item)
  return sortByRank ranked

/-- Records in the order of their labels' binding, stable among equals; records without a
label, or without an identifier, come last. -/
def byRankUnlabelledLast {α : Type} (id : α → Option Uuid) (items : List α) : ConsoleM (List α) := do
  let labels := (← get).labels
  let last := labels.names.length
  let ranked := items.map fun item =>
    (((id item).bind labels.rankOf).getD last, item)
  return sortByRank ranked

end SeatBilling.Console
