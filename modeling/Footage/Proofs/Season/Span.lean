import Footage.Proofs.Calendar.Day
import Footage.Proofs.Season.Reading

/-!
# The span of a season

A season lasts from the first of August of its first year to the last of May of its last one, and
each season that is read from a text has both days. Its two years are read independently of each
other. So a season that one year names runs forward, but of two years the first must be the smaller
one. Two digits stand for a year of the century that their number alone suits.

## Main definitions

* `Season.RunsForward`: a season that ends after it starts.
* `Season.Spans`: the days of a season, told by the text that it is read from.

## Main results

* `Season.runsForward_iff`: the seasons that run forward.
* `Season.expandYear_lt_iff`: the order of years of two digits.
* `Season.spans`: all of this together.
-/

namespace Footage.Season

open Text Calendar

variable {text part : List Char} {m n : Int} {season : Season}

/-- A season that ends after it starts. -/
def RunsForward (season : Season) : Prop :=
  ∃ start finish, season.startDay? = some start ∧ season.endDay? = some finish ∧
    start.Before finish

/-- The first of August and the last of May are days of every year in range. -/
theorem isDay_of_isYear (h : IsYear n) : IsDay n 8 1 ∧ IsDay n 5 31 := by
  unfold IsYear minYear maxYear at h
  have haugust : monthLength n 8 = 31 := rfl
  have hmay : monthLength n 5 = 31 := rfl
  unfold IsDay firstYear lastYear
  omega

theorem IsInRange.exists_startDay? (h : season.IsInRange) :
    ∃ day, season.startDay? = some day :=
  Day.exists_ofParts? (isDay_of_isYear h.startYear).1

theorem IsInRange.exists_endDay? (h : season.IsInRange) : ∃ day, season.endDay? = some day :=
  Day.exists_ofParts? (isDay_of_isYear h.endYear).2

/-- A season runs forward exactly if its first year comes before its last one. -/
theorem runsForward_iff (h : season.IsInRange) :
    season.RunsForward ↔ season.startYear.toInt < season.endYear.toInt := by
  obtain ⟨start, hstart⟩ := h.exists_startDay?
  obtain ⟨finish, hfinish⟩ := h.exists_endDay?
  obtain ⟨hyear, hmonth, hday⟩ := Day.ofParts?_eq_some_iff.1 hstart
  obtain ⟨hyear', hmonth', hday'⟩ := Day.ofParts?_eq_some_iff.1 hfinish
  -- In one and the same year, August comes after May.
  have hbefore : start.Before finish ↔ season.startYear.toInt < season.endYear.toInt := by
    rw [Day.before_iff]
    omega
  rw [← hbefore]
  constructor
  · rintro ⟨start', finish', hstart', hfinish', hlt⟩
    rw [hstart, Option.some_inj] at hstart'
    rw [hfinish, Option.some_inj] at hfinish'
    exact hstart' ▸ hfinish' ▸ hlt
  · exact fun hlt => ⟨start, finish, hstart, hfinish, hlt⟩

/-- Of two numbers of two digits, the first stands for an earlier year if it is one of the last
century and the second is none, or if it is smaller and both are of one century. -/
theorem expandYear_lt_iff (hm : 0 ≤ m ∧ m ≤ 99) (hn : 0 ≤ n ∧ n ≤ 99) :
    expandYear m < expandYear n ↔ 50 ≤ m ∧ n < 50 ∨ m < n ∧ (m < 50 ↔ n < 50) := by
  unfold expandYear
  split_ifs <;> omega

/-- The days of a season that is read from a text. -/
structure Spans (text : List Char) (season : Season) : Prop where
  /-- It starts on the first of August of its first year. -/
  start : ∃ day, season.startDay? = some day ∧
    day.year = season.startYear.toInt ∧ day.month = 8 ∧ day.day = 1
  /-- It ends on the last of May of its last year. -/
  finish : ∃ day, season.endDay? = some day ∧
    day.year = season.endYear.toInt ∧ day.month = 5 ∧ day.day = 31
  /-- It runs forward exactly if its first year comes before its last one. -/
  forward_iff : season.RunsForward ↔ season.startYear.toInt < season.endYear.toInt
  /-- So it does if one year names it. -/
  alone : ∀ part, text.splitOn '/' = [part] → season.RunsForward
  /-- Two years are read each from its own part, whatever the other one is. -/
  pair : ∀ first last, text.splitOn '/' = [first, last] →
    readYear? first = some season.startYear.toInt ∧ readYear? last = some season.endYear.toInt
  /-- For numbers of two digits, it depends on the century that each of them stands for. -/
  twoDigits : ∀ first last m n, text.splitOn '/' = [first, last] →
    number? first = some m → number? last = some n → 0 ≤ m ∧ m ≤ 99 → 0 ≤ n ∧ n ≤ 99 →
      (season.RunsForward ↔ 50 ≤ m ∧ n < 50 ∨ m < n ∧ (m < 50 ↔ n < 50))

/-- Every season that is read from a text has its two days, but only if its years ascend does it run
forward. -/
theorem spans (h : read? text = some season) : Spans text season := by
  obtain ⟨hnames, hrange⟩ := read?_eq_some_iff.1 h
  have hforward := runsForward_iff hrange
  have hpair : ∀ first last, text.splitOn '/' = [first, last] →
      readYear? first = some season.startYear.toInt ∧
        readYear? last = some season.endYear.toInt :=
    fun first last hparts => (names_iff_of_two hparts).1 hnames
  obtain ⟨start, hstart⟩ := hrange.exists_startDay?
  obtain ⟨finish, hfinish⟩ := hrange.exists_endDay?
  refine ⟨⟨start, hstart, Day.ofParts?_eq_some_iff.1 hstart⟩,
    ⟨finish, hfinish, Day.ofParts?_eq_some_iff.1 hfinish⟩, hforward, ?_, hpair, ?_⟩
  · intro part hparts
    obtain ⟨-, hnext⟩ := (names_iff_of_one hparts).1 hnames
    rw [hforward]
    omega
  · intro first last m n hparts hm hn hmrange hnrange
    -- The years are what the numbers stand for.
    obtain ⟨hfirst, hlast⟩ := hpair first last hparts
    rw [readYear?_eq, hm, Option.map_some, Option.some_inj] at hfirst
    rw [readYear?_eq, hn, Option.map_some, Option.some_inj] at hlast
    rw [hforward, ← hfirst, ← hlast, expandYear_lt_iff hmrange hnrange]

/-- The last season of the last century, by two digits for each year. -/
def turnOfCentury : List Char := "99/00".toList

theorem turnOfCentury_spans : read? turnOfCentury = some ⟨1999, 2000⟩ ∧
    RunsForward ⟨1999, 2000⟩ := by
  have hread : read? turnOfCentury = some ⟨1999, 2000⟩ := by decide +kernel
  have hspans := spans hread
  refine ⟨hread, (hspans.twoDigits ['9', '9'] ['0', '0'] 99 0 ?_ ?_ ?_ ?_ ?_).2 ?_⟩
  all_goals decide +kernel

/-- Years in the wrong order are read as they stand, and so are two years that are next to each
other but stand for different centuries. -/
theorem backwards_read :
    (read? "2024/2023".toList = some ⟨2024, 2023⟩ ∧ ¬RunsForward ⟨2024, 2023⟩) ∧
      read? "49/50".toList = some ⟨2049, 1950⟩ ∧ ¬RunsForward ⟨2049, 1950⟩ := by
  have hreversed : read? "2024/2023".toList = some ⟨2024, 2023⟩ := by decide +kernel
  have hcenturies : read? "49/50".toList = some ⟨2049, 1950⟩ := by decide +kernel
  refine ⟨⟨hreversed, ?_⟩, hcenturies, ?_⟩
  · rw [runsForward_iff (read?_eq_some_iff.1 hreversed).2]
    decide
  · rw [runsForward_iff (read?_eq_some_iff.1 hcenturies).2]
    decide

end Footage.Season
