import Footage.Calendar.Day
import Mathlib.Tactic.SplitIfs

/-!
# Days and their numbers

A day is told by its year, month and day, and days are in order by these three. Months have 28 to 31
days.

## Main results

* `Calendar.Day.ofParts?_eq_some_iff`: the numbers of a day.
* `Calendar.Day.before_iff`: the order of days.
-/

namespace Footage.Calendar

variable {year : Int} {month day : Nat}

theorem monthLength_le (year : Int) (month : Nat) : monthLength year month ≤ 31 := by
  unfold monthLength
  split_ifs <;> omega

theorem le_monthLength (year : Int) (month : Nat) : 28 ≤ monthLength year month := by
  unfold monthLength
  split_ifs <;> omega

namespace Day

variable {a b d : Day}

/-- The bounds of the numbers of a day that do not hang on the year. -/
theorem bounds (d : Day) : 1 ≤ d.month ∧ d.month ≤ 12 ∧ 1 ≤ d.day ∧ d.day ≤ 31 := by
  obtain ⟨-, -, hmonth, hmonth', hday, hday'⟩ := d.isDay
  exact ⟨hmonth, hmonth', hday, Nat.le_trans hday' (monthLength_le _ _)⟩

/-- The months and days of the calendar have two digits. -/
theorem month_lt_and_day_lt (d : Day) : d.month < 100 ∧ d.day < 100 := by
  have hbounds := d.bounds
  omega

theorem ofParts?_self (d : Day) : ofParts? d.year d.month d.day = some d := by
  rw [ofParts?, dif_pos d.isDay]

/-- Three numbers name the day that has them. -/
theorem ofParts?_eq_some_iff :
    ofParts? year month day = some d ↔ d.year = year ∧ d.month = month ∧ d.day = day := by
  constructor
  · intro h
    rw [ofParts?] at h
    split_ifs at h with hday
    cases h
    exact ⟨rfl, rfl, rfl⟩
  · rintro ⟨rfl, rfl, rfl⟩
    exact d.ofParts?_self

theorem exists_ofParts? (h : IsDay year month day) : ∃ d, ofParts? year month day = some d :=
  ⟨⟨year, month, day, h⟩, ofParts?_eq_some_iff.2 ⟨rfl, rfl, rfl⟩⟩

/-- Days are in order by year, then by month, then by day. -/
theorem before_iff : a.Before b ↔
    a.year < b.year ∨
      a.year = b.year ∧ (a.month < b.month ∨ a.month = b.month ∧ a.day < b.day) := by
  have ha := a.bounds
  have hb := b.bounds
  unfold Before serial
  omega

end Day

end Footage.Calendar
