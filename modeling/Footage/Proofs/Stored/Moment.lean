import Footage.Calendar.Layout
import Footage.Proofs.Calendar.Day
import Footage.Proofs.Calendar.Pieces

/-!
# Reading written moments

A moment that is written in full is read back to the nanosecond. A year has a sign exactly outside
0 to 9999, where it may have more than four digits; a fraction may have three, six or nine digits,
and none if it is zero.

## Main results

* `Calendar.takeYear?_writeYear` and `Calendar.isFraction_writeFraction`: the pieces whose widths
  vary.
* `Calendar.Moment.moment?_parts`: the numbers of a moment name the moment.
* `Calendar.Layout.read?_write`: the text of a moment is read as its numbers.
-/

namespace Footage.Calendar

open Footage.Text

/-! ## Pieces -/

/-- A year is read back where a dash follows it, as in every date. -/
theorem takeYear?_writeYear (year : Int) (rest : List Char) :
    takeYear? (trimStart (writeYear year ++ '-' :: rest)) = some (year, '-' :: rest) := by
  rw [(isYearText_writeYear year).trimStart_append]
  exact takeYear?_append (isYearText_writeYear year) (noDigit_cons rfl rest)

/-- A fraction is written with the digits that are needed for it. -/
theorem isFraction_writeFraction {nanosecond : Nat} (h : nanosecond < 1000000000) :
    IsFraction (writeFraction nanosecond) nanosecond := by
  rw [writeFraction]
  -- Nothing, milliseconds, microseconds or nanoseconds.
  split_ifs with hzero hmilli hmicro
  · rw [hzero]
    exact .none
  · have hvalue : nanosecond / 1000000 * 10 ^ (9 - 3) = nanosecond := by omega
    have hfraction : IsFraction _ (nanosecond / 1000000 * 10 ^ (9 - 3)) :=
      isFraction_padded (by decide) (by decide) (by omega)
    rwa [hvalue] at hfraction
  · have hvalue : nanosecond / 1000 * 10 ^ (9 - 6) = nanosecond := by omega
    have hfraction : IsFraction _ (nanosecond / 1000 * 10 ^ (9 - 6)) :=
      isFraction_padded (by decide) (by decide) (by omega)
    rwa [hvalue] at hfraction
  · have hfraction : IsFraction _ (nanosecond * 10 ^ (9 - 9)) :=
      isFraction_padded (by decide) (by decide) h
    rwa [Nat.sub_self, Nat.pow_zero, Nat.mul_one] at hfraction

/-! ## Moments -/

/-- A number of two digits is read back. -/
theorem takeNumber?_two {n : Nat} (h : n < 100) (rest : List Char) :
    takeNumber? 2 (trimStart (padded 2 n ++ rest)) = some (n, rest) := by
  have hnumber : IsNumber 2 (padded 2 n) n := isNumber_padded (by decide) h
  rw [trimStart_append hnumber.ne_nil (fun _ hc => hnumber.isBlank_of_mem_head? hc)]
  exact takeNumber?_of_length_eq hnumber (length_padded (by decide) h) rest

/-- A time of day has no number of more than two digits. -/
theorem Clock.lt_hundred (t : Clock) : t.hour < 100 ∧ t.minute < 100 ∧ t.second < 100 := by
  have ht := t.inRange
  omega

theorem Clock.ofParts?_self (t : Clock) :
    ofParts? t.hour t.minute t.second t.nanosecond = some t := by
  rw [ofParts?, dif_pos t.inRange]

/-- The numbers of a moment. -/
def Moment.parts (m : Moment) : Parts where
  year := m.day.year
  month := m.day.month
  day := m.day.day
  hour := m.clock.hour
  minute := m.clock.minute
  second := m.clock.second
  nanosecond := m.clock.nanosecond

/-- The numbers of a moment name the moment. -/
theorem Moment.moment?_parts (m : Moment) : m.parts.moment? = some m := by
  simp [Parts.moment?, Parts.day?, parts, m.day.ofParts?_self, m.clock.ofParts?_self]

/-- The layout of stored moments takes the text of a moment apart into its numbers. -/
theorem Layout.read?_write (m : Moment) : storedMoment.read? m.write = some m.parts := by
  obtain ⟨hmonth, hday⟩ := m.day.month_lt_and_day_lt
  obtain ⟨hhour, hminute, hsecond⟩ := m.clock.lt_hundred
  have hfraction := takeFraction?_of_isFraction (isFraction_writeFraction m.clock.inRange.2.2.2)
  have hdash : isBlank '-' = false := by decide
  have hT : isBlank 'T' = false := by decide
  have hcolon : isBlank ':' = false := by decide
  rw [read?, storedMoment, Moment.write, Moment.writeSeconds, Day.write, Clock.writeSeconds]
  simp only [List.append_assoc, List.cons_append]
  -- The pieces are taken off one after the other. No blank stands before any of them.
  simp only [readFrom?, Piece.take?, takeYear?_writeYear, takeNumber?_two hmonth,
    takeNumber?_two hday, takeNumber?_two hhour, takeNumber?_two hminute, takeNumber?_two hsecond,
    hfraction, takeFixed?, trimStart_cons hdash, trimStart_cons hT, trimStart_cons hcolon, if_true,
    Option.map_some, Option.bind_eq_bind, Option.bind_some]
  rfl

end Footage.Calendar
