import SeatBilling.Log.Record

/-!
# Which records a program writes

A program writes the records a filter lets through. A filter is a list of directives, written
as text separated by commas, empty ones passed over: a level alone (`info`), a target alone
(`hrcore_api`, every level), or a target and a level joined by `=` (`hrcore_billing=off`).
Levels are named in any case, or numbered from `0` (off) to `5` (trace) in decimal digits, a
plus sign and leading zeros allowed; a directive with `=` must name a level. A target is any
text without `=`; one followed by a field list (`target[{field}]`) speaks only for records
inside spans with those fields, which the programs here do not write, so it lets nothing
more through.

A record is let through by the most specific directive whose target starts its target, the
directive without a target being the least specific; it passes when its level is at most as
verbose as the directive's. Of two directives for one target the later counts. A record no
directive speaks for is dropped, and a filter without directives lets errors through.

A text that is not a list of directives is not a filter; a program then falls back on its own.
-/

namespace SeatBilling.Log

/-- A directive: the target it speaks for (`none` for every target) and the most verbose
level it lets through, by rank (0 lets nothing through). -/
structure Directive where
  target : Option String
  rank : Nat
  deriving DecidableEq, Repr

/-- A filter: its directives, in the order they were written. -/
structure Filter where
  directives : List Directive
  deriving Repr

/-- A whole number written in decimal digits, a plus sign and leading zeros allowed, below
`2 ^ 64`. -/
def decimal? (text : String) : Option Nat :=
  let digits := match text.toList with
    | '+' :: rest => rest
    | chars => chars
  if digits.isEmpty || !digits.all Char.isDigit then none
  else
    let value := digits.foldl (fun value digit => value * 10 + (digit.toNat - '0'.toNat)) 0
    if value < Nat.pow 2 64 then some value else none

/-- The rank a level name or number stands for. -/
def rankOf? (text : String) : Option Nat :=
  match decimal? text with
  | some number => if number ≤ 5 then some number else none
  | none =>
    match text.toLower with
    | "off" => some 0
    | "error" => some 1
    | "warn" => some 2
    | "info" => some 3
    | "debug" => some 4
    | "trace" => some 5
    | _ => none

/-- The target of `target` or `target[{fields}]`, and whether fields were named; `none` when a
field list is not closed by `}]`, or there are two. -/
def splitFields? (text : String) : Option (String × Bool) :=
  match text.splitOn "[\x7b" with
  | [target] => some (target, false)
  | [target, fields] => if fields.endsWith "\x7d]" then some (target, true) else none
  | _ => none

/-- Reads one directive: `some none` for one that speaks only inside spans. -/
def Directive.parse? (text : String) : Option (Option Directive) :=
  match text.splitOn "=" with
  | [bare] =>
    match rankOf? bare with
    | some rank => some (some ⟨none, rank⟩)
    | none => some (some ⟨some bare, 5⟩)
  | [targetText, levelText] => do
    let (target, withFields) ← splitFields? targetText
    let rank ← rankOf? levelText
    if withFields then some none else some (some ⟨some target, rank⟩)
  | _ => none

/-- Reads a filter; `none` if a directive cannot be read. -/
def Filter.parse? (text : String) : Option Filter := do
  let directives ← ((text.splitOn ",").filter (!·.isEmpty)).mapM Directive.parse?
  return ⟨directives.filterMap id⟩

/-- How specific a directive is: targets by their length, above the directive for every
target. -/
def Directive.specificity (directive : Directive) : Nat :=
  match directive.target with
  | some target => target.length + 1
  | none => 0

/-- Whether a directive speaks for a record's target. -/
def Directive.covers (directive : Directive) (target : String) : Bool :=
  match directive.target with
  | some prefix_ => prefix_.isPrefixOf target
  | none => true

/-- The directive that decides about a target: the most specific one that speaks for it, the
later of two for one target. -/
def Filter.decider (filter : Filter) (target : String) : Option Directive :=
  let directives := if filter.directives.isEmpty then [⟨none, 1⟩] else filter.directives
  (directives.filter (·.covers target)).foldl (fun best directive =>
    match best with
    | some chosen => if directive.specificity ≥ chosen.specificity then some directive else some chosen
    | none => some directive) none

/-- Whether a filter lets a record through. -/
def Filter.allows (filter : Filter) (record : Record) : Bool :=
  match filter.decider record.target with
  | some directive => record.level.rank ≤ directive.rank
  | none => false

end SeatBilling.Log
