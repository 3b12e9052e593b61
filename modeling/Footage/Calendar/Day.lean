/-!
# Calendar days

Days of the Gregorian calendar, extended to all years that the program can hold.
-/

namespace Footage.Calendar

/-- A year divisible by four is a leap year, except for the centuries not divisible by 400. -/
def isLeapYear (year : Int) : Bool :=
  year % 4 == 0 && (year % 100 != 0 || year % 400 == 0)

/-- The number of days of a month. -/
def monthLength (year : Int) (month : Nat) : Nat :=
  if month = 2 then if isLeapYear year then 29 else 28
  else if month ∈ [4, 6, 9, 11] then 30
  else 31

/-- The first year of the calendar. -/
def firstYear : Int := -262143

/-- The last year of the calendar. -/
def lastYear : Int := 262142

/-- The three numbers name a day of the calendar. -/
def IsDay (year : Int) (month day : Nat) : Prop :=
  firstYear ≤ year ∧ year ≤ lastYear ∧ 1 ≤ month ∧ month ≤ 12 ∧
    1 ≤ day ∧ day ≤ monthLength year month

instance (year : Int) (month day : Nat) : Decidable (IsDay year month day) := by
  unfold IsDay
  infer_instance

/-- A day of the calendar. -/
structure Day where
  year : Int
  month : Nat
  day : Nat
  isDay : IsDay year month day
  deriving DecidableEq

namespace Day

/-- The day that three numbers name, if they name one. -/
def ofParts? (year : Int) (month day : Nat) : Option Day :=
  if h : IsDay year month day then some ⟨year, month, day, h⟩ else none

/-- A number that grows from each day to every later one. -/
def serial (d : Day) : Int :=
  (d.year * 13 + d.month) * 32 + d.day

/-- One day comes before another. -/
def Before (a b : Day) : Prop :=
  a.serial < b.serial

instance (a b : Day) : Decidable (Before a b) :=
  inferInstanceAs (Decidable (a.serial < b.serial))

end Day

end Footage.Calendar
