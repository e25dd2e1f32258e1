import SeatBilling.Time.Calendar
import SeatBilling.Arith.Checked

/-!
# Moments and spans

A `Moment` is an instant together with the UTC offset it is shown in: the ledger keeps the
offset a time was given with, and every time it computes from one keeps it too. Moments are
ordered and compared by instant alone, so two moments in different offsets may be equal in
that order while showing different wall clocks.

A moment's wall clock must lie between the first day of year -9999 and the last day of year
9999; a computation whose result leaves that range has no result (`none`), which the ledger
reports as a fault of its own arithmetic. A `Span` is a whole number of seconds that fits a
64-bit signed word.
-/

namespace SeatBilling.Time

open SeatBilling.Arith

/-- Nanoseconds in a second. -/
def nanosPerSecond : Int := 1000000000

/-- Nanoseconds in a day. -/
def nanosPerDay : Int := 86400000000000

/-- A length of time in whole seconds; it fits a 64-bit signed count of seconds. -/
structure Span where
  seconds : Int
  deriving DecidableEq, Repr

namespace Span

/-- No time at all. -/
def zero : Span := ⟨0⟩

/-- A span of `count` seconds. -/
def ofSeconds? (count : Int) : Option Span := (within64 count).map Span.mk

/-- A span of `count` minutes, if its seconds fit the word. -/
def ofMinutes? (count : Int) : Option Span := (within64 (count * 60)).map Span.mk

/-- A span of `count` hours, if its seconds fit the word. -/
def ofHours? (count : Int) : Option Span := (within64 (count * 3600)).map Span.mk

/-- A span of `count` days, if its seconds fit the word. -/
def ofDays? (count : Int) : Option Span := (within64 (count * 86400)).map Span.mk

/-- The sum of two spans, if it fits the word. -/
def add? (first second : Span) : Option Span := (within64 (first.seconds + second.seconds)).map Span.mk

/-- The span with the opposite direction; a span never holds the least word, so this fits. -/
def neg (span : Span) : Span := ⟨-span.seconds⟩

/-- Whole hours of the span, rounded toward zero. -/
def wholeHours (span : Span) : Int := span.seconds.tdiv 3600

/-- Whole days of the span, rounded toward zero. -/
def wholeDays (span : Span) : Int := span.seconds.tdiv 86400

end Span

/-- An instant, shown on the wall clock of a UTC offset. -/
structure Moment where
  /-- Nanoseconds since 1970-01-01T00:00:00 as read on the clock of `offset`. -/
  wall : Int
  /-- Seconds east of UTC. -/
  offset : Int
  deriving DecidableEq, Repr

namespace Moment

/-- Nanoseconds since 1970-01-01T00:00:00Z. -/
def instant (moment : Moment) : Int := moment.wall - moment.offset * nanosPerSecond

/-- The earliest wall clock a moment may show: -9999-01-01T00:00:00. -/
def wallMin : Int := CivilDate.toDays ⟨-9999, 1, 1⟩ * nanosPerDay

/-- The latest wall clock a moment may show: 9999-12-31T23:59:59.999999999. -/
def wallMax : Int := (CivilDate.toDays ⟨9999, 12, 31⟩ + 1) * nanosPerDay - 1

/-- Whether a wall clock reading lies in the representable years. -/
def wallInRange (wall : Int) : Bool := wallMin ≤ wall && wall ≤ wallMax

/-- The moment at `wall` in `offset`, if that reading lies in the representable years. -/
def ofWall? (wall offset : Int) : Option Moment :=
  if wallInRange wall then some ⟨wall, offset⟩ else none

/-- Midnight of 1970-01-01 in UTC. -/
def epoch : Moment := ⟨0, 0⟩

/-- The moment `seconds` after the epoch, shown in UTC, if its year is representable. -/
def ofUnixSeconds? (seconds : Int) : Option Moment := ofWall? (seconds * nanosPerSecond) 0

/-- Whole seconds since the epoch, rounded down. -/
def unixSeconds (moment : Moment) : Int := moment.instant / nanosPerSecond

/-- The moment a span later, in the same offset, if its year is representable. -/
def shift? (moment : Moment) (span : Span) : Option Moment :=
  ofWall? (moment.wall + span.seconds * nanosPerSecond) moment.offset

/-- The moment a span earlier, in the same offset, if its year is representable. -/
def unshift? (moment : Moment) (span : Span) : Option Moment :=
  ofWall? (moment.wall - span.seconds * nanosPerSecond) moment.offset

instance : LT Moment := ⟨fun first second => first.instant < second.instant⟩

instance : LE Moment := ⟨fun first second => first.instant ≤ second.instant⟩

instance (first second : Moment) : Decidable (first < second) :=
  inferInstanceAs (Decidable (first.instant < second.instant))

instance (first second : Moment) : Decidable (first ≤ second) :=
  inferInstanceAs (Decidable (first.instant ≤ second.instant))

/-- Whether two moments are the same instant, whatever their offsets. -/
def sameInstant (first second : Moment) : Bool := first.instant == second.instant

/-- The later of two moments; on the same instant, the second one. -/
def latest (first second : Moment) : Moment := if second < first then first else second

theorem lt_iff (first second : Moment) : first < second ↔ first.instant < second.instant :=
  Iff.rfl

theorem le_iff (first second : Moment) : first ≤ second ↔ first.instant ≤ second.instant :=
  Iff.rfl

theorem le_latest_left (first second : Moment) : first ≤ first.latest second := by
  unfold latest
  split
  · exact Int.le_refl _
  · rename_i notBefore
    exact Int.not_lt.mp notBefore

theorem le_latest_right (first second : Moment) : second ≤ first.latest second := by
  unfold latest
  split
  · rename_i before
    exact Int.le_of_lt before
  · exact Int.le_refl _

/-- The day number of the wall clock. -/
def dayNumber (moment : Moment) : Int := moment.wall / nanosPerDay

/-- Nanoseconds since midnight on the wall clock. -/
def nanosOfDay (moment : Moment) : Nat := (moment.wall % nanosPerDay).toNat

/-- The calendar date on the wall clock. -/
def date (moment : Moment) : CivilDate := CivilDate.ofDays moment.dayNumber

/-- The hour on the wall clock. -/
def hour (moment : Moment) : Nat := moment.nanosOfDay / 3600000000000

/-- The minute on the wall clock. -/
def minute (moment : Moment) : Nat := moment.nanosOfDay / 60000000000 % 60

/-- The second on the wall clock. -/
def second (moment : Moment) : Nat := moment.nanosOfDay / 1000000000 % 60

/-- The nanoseconds past the second. -/
def nanosecond (moment : Moment) : Nat := moment.nanosOfDay % 1000000000

/-- The same instant shown in UTC. -/
def toUtc (moment : Moment) : Moment := ⟨moment.instant, 0⟩

end Moment

end SeatBilling.Time
