import Footage.Calendar.Moment

/-!
# Seconds of the epoch

Clocks count the seconds since the start of 1970. The count is turned into a moment of universal
time. Years are taken to start in March, so that a leap day is the last day of its year.
-/

namespace Footage.Calendar

/-- The day with a number, counted from the start of 1970. -/
def Day.ofEpochDays? (n : Int) : Option Day :=
  let n := n + 719468
  let cycle := n / 146097
  let dayOfCycle := (n % 146097).toNat
  let yearOfCycle :=
    (dayOfCycle - dayOfCycle / 1460 + dayOfCycle / 36524 - dayOfCycle / 146096) / 365
  let dayOfYear := dayOfCycle - (365 * yearOfCycle + yearOfCycle / 4 - yearOfCycle / 100)
  let monthFromMarch := (5 * dayOfYear + 2) / 153
  let day := dayOfYear - (153 * monthFromMarch + 2) / 5 + 1
  let month := if monthFromMarch < 10 then monthFromMarch + 3 else monthFromMarch - 9
  let year := yearOfCycle + cycle * 400 + if month ≤ 2 then 1 else 0
  Day.ofParts? year month day

/-- The moment with a number of seconds, counted from the start of 1970. -/
def Moment.ofEpochSeconds? (n : Int) : Option Moment := do
  let second := (n % 86400).toNat
  let day ← Day.ofEpochDays? (n / 86400)
  let clock ← Clock.ofParts? (second / 3600) (second / 60 % 60) (second % 60) 0
  return ⟨day, clock⟩

end Footage.Calendar
