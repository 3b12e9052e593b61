import Footage.Calendar.Offset
import Footage.Proofs.Calendar.Day

/-!
# Universal time and back

The day before the next day is the day itself, also across the ends of months, of leap years and of
the year. So moving a moment by less than a day and back gives the moment, and a moment that is kept
in universal time is seen from its place as it was written.

## Main definitions

* `Calendar.Day.Precedes`: a day and the next one, told by their numbers.

## Main results

* `Calendar.Day.next?_eq_some_iff` and `Calendar.Day.previous?_eq_some_iff`: neighbours of a day.
* `Calendar.Moment.shift?_of_shift?`: there and back.
* `Calendar.OffsetMoment.local?_of_ofLocal?`: the local time is what was written.
* `Calendar.OffsetMoment.exists_ofLocal?`: the moments that universal time has.
-/

namespace Footage.Calendar

/-! ## Neighbours of a day -/

namespace Day

variable {d e : Day}

/-- A day and the next one: in one month, or the last of a month and the first of the next, or the
last of a year and the first of the next. -/
inductive Precedes (d e : Day) : Prop
  | inMonth (hyear : e.year = d.year) (hmonth : e.month = d.month) (hday : e.day = d.day + 1)
  | inYear (hyear : e.year = d.year) (hmonth : e.month = d.month + 1)
      (hlast : d.day = monthLength d.year d.month) (hfirst : e.day = 1)
  | newYear (hyear : e.year = d.year + 1) (hmonth : d.month = 12 ∧ e.month = 1)
      (hlast : d.day = 31) (hfirst : e.day = 1)

theorem next?_eq_some_iff : d.next? = some e ↔ Precedes d e := by
  have hd := d.bounds
  have he := e.bounds
  obtain ⟨-, -, -, -, -, hday⟩ := d.isDay
  unfold next?
  constructor
  · intro h
    split_ifs at h with hlast hmonth <;> rw [ofParts?_eq_some_iff] at h
    · exact .inMonth h.1 h.2.1 h.2.2
    · exact .inYear h.1 h.2.1 (by omega) h.2.2
    · -- December has 31 days in every year.
      have hdecember : d.month = 12 := by omega
      rw [hdecember] at hlast
      change ¬d.day < 31 at hlast
      exact .newYear h.1 ⟨hdecember, h.2.1⟩ (by omega) h.2.2
  · intro h
    cases h with
    | inMonth hyear hmonth hnext =>
      -- As the next day belongs to the month, this one is not its last.
      obtain ⟨-, -, -, -, -, hday'⟩ := e.isDay
      rw [hyear, hmonth, hnext] at hday'
      rw [if_pos (show d.day < _ from hday'), ofParts?_eq_some_iff]
      exact ⟨hyear, hmonth, hnext⟩
    | inYear hyear hmonth hlast hfirst =>
      rw [if_neg (by omega), if_pos (by omega), ofParts?_eq_some_iff]
      exact ⟨hyear, hmonth, hfirst⟩
    | newYear hyear hmonth hlast hfirst =>
      have hlength := monthLength_le d.year d.month
      rw [if_neg (by omega), if_neg (by omega), ofParts?_eq_some_iff]
      exact ⟨hyear, hmonth.2, hfirst⟩

theorem previous?_eq_some_iff : e.previous? = some d ↔ Precedes d e := by
  have hd := d.bounds
  have he := e.bounds
  unfold previous?
  constructor
  · intro h
    split_ifs at h with hfirst hmonth <;> rw [ofParts?_eq_some_iff] at h
    · exact .inMonth h.1.symm h.2.1.symm (by omega)
    · obtain ⟨hyear, hmonth', hlast⟩ := h
      rw [← hyear, ← hmonth'] at hlast
      exact .inYear hyear.symm (by omega) hlast (by omega)
    · exact .newYear (by omega) (by omega) h.2.2 (by omega)
  · intro h
    cases h with
    | inMonth hyear hmonth hnext =>
      rw [if_pos (by omega), ofParts?_eq_some_iff]
      omega
    | inYear hyear hmonth hlast hfirst =>
      have hmonth' : e.month - 1 = d.month := by omega
      rw [if_neg (by omega), if_pos (by omega), hmonth', hyear, ofParts?_eq_some_iff]
      exact ⟨rfl, rfl, hlast⟩
    | newYear hyear hmonth hlast hfirst =>
      rw [if_neg (by omega), if_neg (by omega), ofParts?_eq_some_iff]
      omega

/-- No day lies between a day and the next one. -/
theorem Precedes.before_iff (h : Precedes d e) (other : Day) :
    d.Before other ↔ ¬other.Before e := by
  have hd := d.bounds
  have ho := other.bounds
  obtain ⟨-, -, -, -, -, hday⟩ := other.isDay
  rw [Day.before_iff, Day.before_iff]
  cases h with
  | inMonth hyear hmonth hnext => omega
  | inYear hyear hmonth hlast hfirst =>
    by_cases hsame : other.year = d.year ∧ other.month = d.month
    · -- In the month of the last day, all days come up to it.
      rw [hsame.1, hsame.2] at hday
      omega
    · omega
  | newYear hyear hmonth hlast hfirst => omega

/-- The calendar goes on after every day but those of its last year. -/
theorem exists_next? (h : d.year < lastYear) : ∃ e, d.next? = some e := by
  obtain ⟨hyear, hyear', hmonth, hmonth', hday, hday'⟩ := d.isDay
  have hlength := le_monthLength d.year (d.month + 1)
  unfold next?
  split_ifs with hlast hmonth
  · exact exists_ofParts? ⟨hyear, hyear', hmonth, hmonth', by omega, hlast⟩
  · exact exists_ofParts? ⟨hyear, hyear', by omega, by omega, by omega, by omega⟩
  · have hjanuary : monthLength (d.year + 1) 1 = 31 := rfl
    exact exists_ofParts? ⟨by omega, by omega, by omega, by omega, by omega, by omega⟩

/-- The calendar has a day before all but those of its first year. -/
theorem exists_previous? (h : firstYear < d.year) : ∃ e, d.previous? = some e := by
  obtain ⟨hyear, hyear', hmonth, hmonth', hday, hday'⟩ := d.isDay
  have hlength := le_monthLength d.year (d.month - 1)
  unfold previous?
  split_ifs with hfirst hmonth
  · exact exists_ofParts? ⟨hyear, hyear', hmonth, hmonth', by omega, by omega⟩
  · exact exists_ofParts? ⟨hyear, hyear', by omega, by omega, by omega, Nat.le_refl _⟩
  · have hdecember : monthLength (d.year - 1) 12 = 31 := rfl
    exact exists_ofParts? ⟨by omega, by omega, by omega, by omega, by omega, by omega⟩

end Day

/-! ## There and back -/

namespace Clock

variable {t : Clock}

theorem minuteOfDay_bounds (t : Clock) : 0 ≤ t.minuteOfDay ∧ t.minuteOfDay < 1440 := by
  have ht := t.inRange
  unfold minuteOfDay
  omega

theorem minuteOfDay_atMinute (t : Clock) (n : Int) : (t.atMinute n).minuteOfDay = n % 1440 := by
  unfold minuteOfDay atMinute
  dsimp only
  omega

/-- A time of day is found again at its own minute, counted on from any day. -/
theorem atMinute_atMinute (m : Int) {n : Int} (h : n % 1440 = t.minuteOfDay) :
    (t.atMinute m).atMinute n = t := by
  obtain ⟨hour, minute, second, nanosecond, ht⟩ := t
  unfold minuteOfDay at h
  dsimp only at h
  have hhour : (n % 1440 / 60).toNat = hour := by omega
  have hminute : (n % 60).toNat = minute := by omega
  simp [atMinute, hhour, hminute]

end Clock

namespace Moment

variable {m u : Moment} {k : Int}

/-- Moving a moment by less than a day and back gives the moment. -/
theorem shift?_of_shift? (hk : -1440 < k ∧ k < 1440) (h : m.shift? k = some u) :
    u.shift? (-k) = some m := by
  have hminute := m.clock.minuteOfDay_bounds
  obtain ⟨day, hday, rfl⟩ := Option.map_eq_some_iff.1 h
  have hback := m.clock.minuteOfDay_atMinute (m.clock.minuteOfDay + k)
  unfold shift?
  dsimp only
  rw [hback]
  -- The minute on the way back lies in the day after, in the same day or in the day before.
  split_ifs at hday with hbefore hsame
  · have hnext : day.next? = some m.day :=
      Day.next?_eq_some_iff.2 (Day.previous?_eq_some_iff.1 hday)
    rw [if_neg (by omega), if_neg (by omega), hnext, Option.map_some,
      Clock.atMinute_atMinute _ (by omega)]
  · cases hday
    rw [if_neg (by omega), if_pos (by omega), Option.map_some,
      Clock.atMinute_atMinute _ (by omega)]
  · have hprevious : day.previous? = some m.day :=
      Day.previous?_eq_some_iff.2 (Day.next?_eq_some_iff.1 hday)
    rw [if_pos (by omega), hprevious, Option.map_some, Clock.atMinute_atMinute _ (by omega)]

/-- The moments of all years but the first and the last can be moved. -/
theorem exists_shift? (m : Moment) (hfirst : firstYear < m.day.year) (hlast : m.day.year < lastYear)
    (k : Int) : ∃ u, m.shift? k = some u := by
  obtain ⟨before, hbefore⟩ := Day.exists_previous? hfirst
  obtain ⟨after, hafter⟩ := Day.exists_next? hlast
  unfold shift?
  dsimp only
  split_ifs
  · exact ⟨_, by rw [hbefore, Option.map_some]⟩
  · exact ⟨_, rfl⟩
  · exact ⟨_, by rw [hafter, Option.map_some]⟩

end Moment

@[simp]
theorem Offset.minutes_opposite (offset : Offset) : offset.opposite.minutes = -offset.minutes := rfl

namespace OffsetMoment

variable {written : Moment} {offset : Offset} {m : OffsetMoment}

/-- A moment in universal time is seen from its place as it was written. -/
theorem local?_of_ofLocal? (h : ofLocal? written offset = some m) : m.local? = some written := by
  obtain ⟨universal, hshift, rfl⟩ := Option.map_eq_some_iff.1 h
  have hback := Moment.shift?_of_shift? offset.opposite.inRange hshift
  rwa [Offset.minutes_opposite, Int.neg_neg] at hback

theorem exists_ofLocal? (hfirst : firstYear < written.day.year)
    (hlast : written.day.year < lastYear) (offset : Offset) :
    ∃ m, ofLocal? written offset = some m := by
  obtain ⟨universal, hshift⟩ := written.exists_shift? hfirst hlast offset.opposite.minutes
  exact ⟨⟨universal, offset⟩, by rw [ofLocal?, hshift, Option.map_some]⟩

end OffsetMoment

end Footage.Calendar
