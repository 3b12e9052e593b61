import Footage.Calendar.Day
import Footage.Text.Decimal

/-!
# Moments

A day with a time of day to the nanosecond, without a time zone. The second numbered 60 is a
leap second. The written form is `YYYY-MM-DDTHH:MM:SS`, with a fraction of three, six or nine
digits when the fraction is not zero, and a sign before years outside 0 to 9999.
-/

namespace Footage.Calendar

open Footage.Text

/-- A time of day. -/
structure Clock where
  hour : Nat
  minute : Nat
  second : Nat
  nanosecond : Nat
  inRange : hour < 24 ∧ minute < 60 ∧ second ≤ 60 ∧ nanosecond < 1000000000
  deriving DecidableEq

namespace Clock

/-- The time of day that four numbers name, if they name one. -/
def ofParts? (hour minute second nanosecond : Nat) : Option Clock :=
  if h : hour < 24 ∧ minute < 60 ∧ second ≤ 60 ∧ nanosecond < 1000000000 then
    some ⟨hour, minute, second, nanosecond, h⟩
  else none

/-- The start of the day. -/
def midnight : Clock := ⟨0, 0, 0, 0, by decide⟩

/-- A number that grows from each time of day to every later one. -/
def serial (t : Clock) : Nat :=
  ((t.hour * 60 + t.minute) * 61 + t.second) * 1000000000 + t.nanosecond

end Clock

/-- A day with a time of day. -/
structure Moment where
  day : Day
  clock : Clock
  deriving DecidableEq

namespace Moment

/-- The start of a day. -/
def startOf (day : Day) : Moment := ⟨day, .midnight⟩

/-- A number that grows from each moment to every later one. -/
def serial (m : Moment) : Int :=
  m.day.serial * 87840000000000 + m.clock.serial

/-- One moment comes before another. -/
def Before (a b : Moment) : Prop :=
  a.serial < b.serial

instance (a b : Moment) : Decidable (Before a b) :=
  inferInstanceAs (Decidable (a.serial < b.serial))

end Moment

/-- A year as four digits, with a sign and at least one more digit outside 0 to 9999. -/
def writeYear (year : Int) : List Char :=
  if 0 ≤ year ∧ year ≤ 9999 then padded 4 year.toNat
  else (if year < 0 then '-' else '+') :: padded 4 year.natAbs

/-- A day as `YYYY-MM-DD`. -/
def Day.write (d : Day) : List Char :=
  writeYear d.year ++ '-' :: padded 2 d.month ++ '-' :: padded 2 d.day

/-- A time of day as `HH:MM:SS`. -/
def Clock.writeSeconds (t : Clock) : List Char :=
  padded 2 t.hour ++ ':' :: padded 2 t.minute ++ ':' :: padded 2 t.second

/-- A fraction of a second as a point and the fewest of three, six or nine digits that hold it;
nothing for zero. -/
def writeFraction (nanosecond : Nat) : List Char :=
  if nanosecond = 0 then []
  else if nanosecond % 1000000 = 0 then '.' :: padded 3 (nanosecond / 1000000)
  else if nanosecond % 1000 = 0 then '.' :: padded 6 (nanosecond / 1000)
  else '.' :: padded 9 nanosecond

namespace Moment

/-- A moment to whole seconds. -/
def writeSeconds (m : Moment) : List Char :=
  m.day.write ++ 'T' :: m.clock.writeSeconds

/-- A moment in full. -/
def write (m : Moment) : List Char :=
  m.writeSeconds ++ writeFraction m.clock.nanosecond

end Moment

end Footage.Calendar
