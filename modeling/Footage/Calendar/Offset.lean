import Footage.Calendar.Moment

/-!
# Offsets from universal time

A moment that is written with an offset from universal time is kept in universal time, together with
the offset. Its local time is the moment that was written.
-/

namespace Footage.Calendar

namespace Day

/-- The day after a day. -/
def next? (d : Day) : Option Day :=
  if d.day < monthLength d.year d.month then ofParts? d.year d.month (d.day + 1)
  else if d.month < 12 then ofParts? d.year (d.month + 1) 1
  else ofParts? (d.year + 1) 1 1

/-- The day before a day. -/
def previous? (d : Day) : Option Day :=
  if 1 < d.day then ofParts? d.year d.month (d.day - 1)
  else if 1 < d.month then ofParts? d.year (d.month - 1) (monthLength d.year (d.month - 1))
  else ofParts? (d.year - 1) 12 31

end Day

namespace Clock

/-- The number of a time's minute in the day. -/
def minuteOfDay (t : Clock) : Int :=
  t.hour * 60 + t.minute

/-- The time of day with the same second in another minute. Minutes count on from day to day. -/
def atMinute (t : Clock) (minute : Int) : Clock where
  hour := (minute % 1440 / 60).toNat
  minute := (minute % 60).toNat
  second := t.second
  nanosecond := t.nanosecond
  inRange := by
    have ht := t.inRange
    omega

end Clock

/-- The moment that lies some minutes later, or earlier if the number is negative. The number is
that of less than a day. -/
def Moment.shift? (m : Moment) (minutes : Int) : Option Moment :=
  let minute := m.clock.minuteOfDay + minutes
  -- Less than a day leads no further than to a neighbour of the day.
  let day :=
    if minute < 0 then m.day.previous? else if minute < 1440 then some m.day else m.day.next?
  day.map fun day => ⟨day, m.clock.atMinute minute⟩

/-- An offset from universal time in minutes, less than a day to either side. -/
structure Offset where
  minutes : Int
  inRange : -1440 < minutes ∧ minutes < 1440
  deriving DecidableEq

namespace Offset

/-- Universal time itself. -/
def zero : Offset := ⟨0, by decide⟩

/-- The offset of a place that is ahead of universal time by some hours and minutes. -/
def ahead? (hours minutes : Nat) : Option Offset :=
  if h : hours < 24 ∧ minutes < 60 then some ⟨hours * 60 + minutes, by omega⟩ else none

/-- The offset to the other side. -/
def opposite (offset : Offset) : Offset where
  minutes := -offset.minutes
  inRange := by
    have h := offset.inRange
    omega

end Offset

/-- A moment with an offset from universal time. -/
structure OffsetMoment where
  /-- The moment in universal time. -/
  universal : Moment
  offset : Offset

namespace OffsetMoment

/-- The moment that was written with an offset. -/
def ofLocal? (written : Moment) (offset : Offset) : Option OffsetMoment :=
  (written.shift? offset.opposite.minutes).map fun universal => ⟨universal, offset⟩

/-- The moment as its place has it. -/
def local? (m : OffsetMoment) : Option Moment :=
  m.universal.shift? m.offset.minutes

end OffsetMoment

end Footage.Calendar
