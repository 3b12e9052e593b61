import Footage.Proofs.Calendar.Day
import Footage.Proofs.Calendar.Pieces
import Footage.Proofs.Kinds

/-!
# Dates of events

The date of an event is read from a day, a month and a year with slashes between them. Day and month
may have one digit, a year may have fewer than four or a sign, and blanks may stand before each
number. So more is read than texts of the form `dd/MM/yyyy`: a year of two digits is one of the
first century. The texts of that form are those in which every number has its full width.

## Main definitions

* `Calendar.IsSlashed`: a day, a month and a year with slashes between them.
* `Calendar.HasFullWidths`: two digits, two digits and four digits with slashes between them.
* `Calendar.Day.writeSlashed`: a day in the form `dd/MM/yyyy`.
* `ValueParser.TakesDates`: what the parser of dates makes of a text.

## Main results

* `Calendar.Layout.read?_eventDate_iff`: what is read by the layout of dates.
* `Calendar.IsSlashed.eq_writeSlashed_iff`: the texts of the form `dd/MM/yyyy`.
* `ValueParser.standard_takesDates`: all of this together.
-/

namespace Footage

open Text

namespace Calendar

variable {text : List Char} {parts : Parts} {year : Int} {month day : Nat} {d : Day}

/-- A day, a month and a year with slashes between them, and perhaps with blanks before each. -/
def IsSlashed (text : List Char) (year : Int) (month day : Nat) : Prop :=
  ∃ dayText monthText yearText, text = dayText ++ '/' :: (monthText ++ '/' :: yearText) ∧
    Indented (IsNumber 2 · day) dayText ∧ Indented (IsNumber 2 · month) monthText ∧
      Indented (IsYearText · year) yearText

/-- The layout of dates takes exactly these texts, for their numbers. -/
theorem Layout.read?_eventDate_iff : eventDate.read? text = some parts ↔
    ∃ year month day, IsSlashed text year month day ∧
      parts = { year := year, month := month, day := day } := by
  constructor
  · intro h
    -- What each piece takes is its part of the text, and at the end nothing is left.
    obtain ⟨_, _, htake, h⟩ := exists_of_readFrom?_cons h
    obtain ⟨dayText, day, rfl, hday, rfl⟩ := Piece.exists_of_take?_day htake
    obtain ⟨_, _, htake, h⟩ := exists_of_readFrom?_cons h
    obtain ⟨rfl, rfl⟩ := Piece.eq_of_take?_fixed htake
    obtain ⟨_, _, htake, h⟩ := exists_of_readFrom?_cons h
    obtain ⟨monthText, month, rfl, hmonth, rfl⟩ := Piece.exists_of_take?_month htake
    obtain ⟨_, _, htake, h⟩ := exists_of_readFrom?_cons h
    obtain ⟨rfl, rfl⟩ := Piece.eq_of_take?_fixed htake
    obtain ⟨_, _, htake, h⟩ := exists_of_readFrom?_cons h
    obtain ⟨yearText, year, rfl, hyear, rfl⟩ := Piece.exists_of_take?_year htake
    obtain ⟨rfl, rfl⟩ := eq_of_readFrom?_nil h
    refine ⟨year, month, day, ⟨dayText, monthText, yearText, ?_, hday, hmonth, hyear⟩, rfl⟩
    rw [List.append_nil]
  · rintro ⟨year, month, day, ⟨dayText, monthText, yearText, rfl, hday, hmonth, hyear⟩, rfl⟩
    -- A slash or the end of the text stands behind each number.
    have hend := takeYear?_indented hyear noDigit_nil
    rw [List.append_nil] at hend
    have hslash : ∀ rest, NoDigit ('/' :: rest) := noDigit_cons rfl
    simp only [Layout.read?, eventDate, readFrom?, Piece.take?,
      takeNumber?_indented hday (hslash _), takeNumber?_indented hmonth (hslash _), hend,
      takeFixed?, if_true, Option.map_some, Option.bind_eq_bind, Option.bind_some]

/-- A text has the numbers of one date at most. -/
theorem IsSlashed.unique {year' : Int} {month' day' : Nat} (h : IsSlashed text year month day)
    (h' : IsSlashed text year' month' day') : year = year' ∧ month = month' ∧ day = day' := by
  have hread := Layout.read?_eventDate_iff.2 ⟨year, month, day, h, rfl⟩
  have hread' := Layout.read?_eventDate_iff.2 ⟨year', month', day', h', rfl⟩
  rw [hread, Option.some_inj] at hread'
  cases hread'
  exact ⟨rfl, rfl, rfl⟩

/-! ## The form of dates -/

/-- A day of the years 0 to 9999 in the form `dd/MM/yyyy`. -/
structure Day.IsPrinted (d : Day) (text : List Char) : Prop where
  year : 0 ≤ d.year ∧ d.year ≤ 9999
  text : text = padded 2 d.day ++ '/' :: (padded 2 d.month ++ '/' :: padded 4 d.year.toNat)

/-- Two digits, two digits and four digits with slashes between them. -/
def HasFullWidths (text : List Char) : Prop :=
  ∃ dayText monthText yearText, text = dayText ++ '/' :: (monthText ++ '/' :: yearText) ∧
    IsFull 2 dayText ∧ IsFull 2 monthText ∧ IsFull 4 yearText

theorem HasFullWidths.length (h : HasFullWidths text) : text.length = 10 := by
  obtain ⟨dayText, monthText, yearText, rfl, hday, hmonth, hyear⟩ := h
  simp [hday.length, hmonth.length, hyear.length]

theorem HasFullWidths.exists_isSlashed (h : HasFullWidths text) :
    ∃ year month day : Nat, IsSlashed text year month day ∧ year ≤ 9999 ∧
      text = padded 2 day ++ '/' :: (padded 2 month ++ '/' :: padded 4 year) := by
  obtain ⟨dayText, monthText, yearText, rfl, hday, hmonth, hyear⟩ := h
  have hyearNumber := hyear.isNumber (by decide)
  have hlt := digitsValue_lt hyear.isDigit
  rw [hyear.length] at hlt
  refine ⟨digitsValue yearText, digitsValue monthText, digitsValue dayText, ⟨dayText, monthText,
    yearText, rfl, ?_, ?_, ?_⟩, Nat.le_of_lt_succ hlt, ?_⟩
  · exact indented_of_isText (hday.isNumber (by decide))
  · exact indented_of_isText (hmonth.isNumber (by decide))
  · exact indented_of_isText (.plain hyearNumber)
  · rw [← hday.eq_padded (by decide), ← hmonth.eq_padded (by decide),
      ← hyear.eq_padded (by decide)]

theorem Day.IsPrinted.hasFullWidths (h : d.IsPrinted text) : HasFullWidths text := by
  obtain ⟨hmonth, hday⟩ := d.month_lt_and_day_lt
  have hyear := h.year
  refine ⟨_, _, _, h.text, ?_, ?_, ?_⟩
  · exact isFull_padded (by decide) hday
  · exact isFull_padded (by decide) hmonth
  · exact isFull_padded (by decide) (show d.year.toNat < 10 ^ 4 by omega)

/-- The form of a day has the numbers of this day. -/
theorem Day.IsPrinted.isSlashed (h : d.IsPrinted text) : IsSlashed text d.year d.month d.day := by
  obtain ⟨hmonth, hday⟩ := d.month_lt_and_day_lt
  have hyear := isYearText_writeYear d.year
  rw [writeYear, if_pos h.year] at hyear
  refine ⟨_, _, _, h.text, ?_, ?_, indented_of_isText hyear⟩
  · exact indented_of_isText (isNumber_padded (by decide) hday)
  · exact indented_of_isText (isNumber_padded (by decide) hmonth)

/-- A text that has the numbers of a day is the form of this day exactly if each number has its full
width. -/
theorem IsSlashed.isPrinted_iff (h : IsSlashed text d.year d.month d.day) :
    d.IsPrinted text ↔ HasFullWidths text := by
  refine ⟨Day.IsPrinted.hasFullWidths, fun hwidths => ?_⟩
  obtain ⟨year, month, day, hslashed, hle, htext⟩ := hwidths.exists_isSlashed
  -- The numbers in full width are those of the day, as a text has no others.
  obtain ⟨hyear, rfl, rfl⟩ := h.unique hslashed
  have hnat : d.year.toNat = year := by omega
  exact ⟨by omega, by rw [htext, hnat]⟩

end Calendar

/-! ## The parser of dates -/

namespace ValueParser

open Calendar

variable {raw : String} {value : Value} {d : Day}

/-- A date is accepted if its numbers are those of a day, and is then the start of this day. -/
theorem date_eq_some_iff : date raw = some value ↔
    ∃ d : Day, IsSlashed (trim raw.toList) d.year d.month d.day ∧ value = .date (.startOf d) := by
  simp only [date, Option.map_eq_some_iff, Option.bind_eq_some_iff, Layout.read?_eventDate_iff]
  constructor
  · rintro ⟨d, ⟨_, ⟨year, month, day, hslashed, rfl⟩, hd⟩, rfl⟩
    obtain ⟨rfl, rfl, rfl⟩ := Day.ofParts?_eq_some_iff.1 hd
    exact ⟨d, hslashed, rfl⟩
  · rintro ⟨d, hslashed, rfl⟩
    exact ⟨d, ⟨_, ⟨_, _, _, hslashed, rfl⟩, d.ofParts?_self⟩, rfl⟩

/-- What the parser of dates makes of a text. -/
structure TakesDates (raw : String) : Prop where
  /-- It accepts the texts that are a day, a month and a year with slashes between them. -/
  accepts_iff : ∀ value, date raw = some value ↔
    ∃ d : Day, IsSlashed (trim raw.toList) d.year d.month d.day ∧ value = .date (.startOf d)
  /-- Among them are the days in the form `dd/MM/yyyy`. -/
  printed : ∀ d : Day, d.IsPrinted (trim raw.toList) → date raw = some (.date (.startOf d))
  /-- An accepted text has this form exactly if each of its numbers has the full width. -/
  isPrinted_iff : ∀ d : Day, date raw = some (.date (.startOf d)) →
    (d.IsPrinted (trim raw.toList) ↔ HasFullWidths (trim raw.toList))

/-- The standard parser of dates takes more than the form `dd/MM/yyyy`, but nothing else for this
form. -/
theorem standard_takesDates (raw : String) :
    Registry.standard.parser? .date = some date ∧ TakesDates raw := by
  refine ⟨Registry.parser?_standard .date, fun value => date_eq_some_iff, ?_, ?_⟩
  · exact fun d hprinted => date_eq_some_iff.2 ⟨d, hprinted.isSlashed, rfl⟩
  · intro d haccepted
    obtain ⟨other, hslashed, heq⟩ := date_eq_some_iff.1 haccepted
    -- The start of a day tells the day.
    cases heq
    exact hslashed.isPrinted_iff

/-- A day of the first century, written as one would write a day of this one. -/
def shortYear : Day := ⟨24, 8, 1, by decide⟩

/-- So a year of two digits is taken as it stands. -/
theorem shortYear_accepted : Registry.standard.parser? .date = some date ∧
    date "01/08/24" = some (.date (.startOf shortYear)) ∧ shortYear.year = 24 ∧
      ∀ d : Day, ¬d.IsPrinted (trim "01/08/24".toList) := by
  have htrim : (trim "01/08/24".toList).length = 8 := by decide +kernel
  refine ⟨Registry.parser?_standard .date, by decide +kernel, rfl, fun d hprinted => ?_⟩
  rw [hprinted.hasFullWidths.length] at htrim
  cases htrim

end ValueParser

end Footage
