import Footage.Proofs.Calendar.Day
import Footage.Proofs.Calendar.Pieces
import Footage.Proofs.Pattern.Whole
import Footage.Settings

/-!
# Dates of settings

A date is checked in two steps, and neither of them is strict. The pattern asks for digits in full
width with hyphens between them, but takes the digits of all scripts. The layout takes ASCII digits
only, but also signs, blanks and numbers of fewer digits. Together they leave the days of the years
0 to 9999 in the form `YYYY-MM-DD`, one text for each day.

## Main definitions

* `Calendar.Day.IsDated`: a day in the form `YYYY-MM-DD`.
* `Calendar.HasDateForm`: what the pattern asks for.
* `Calendar.IsDashed`: what the layout takes.
* `Calendar.ReadsDate`: what is made of a text.

## Main results

* `Calendar.hasDateForm_iff`: the pattern.
* `Calendar.Layout.read?_isoDate_iff`: the layout.
* `Calendar.IsDashed.exists_padded`: what passes both.
* `Calendar.readDate_bijective`: the texts that are dates are those of the days, one for each.
-/

namespace Footage

open Text

namespace Calendar

/-! ## The pattern -/

section Form

open Pattern

/-- The sets of characters of a date. -/
def dateSets : List CharSet :=
  List.replicate 4 decimalDigitRanges ++ CharSet.single '-' ::
    (List.replicate 2 decimalDigitRanges ++ CharSet.single '-' ::
      List.replicate 2 decimalDigitRanges)

/-- As many decimal digits of any script as a width says. -/
structure IsWide (width : Nat) (digits : List Char) : Prop where
  length : digits.length = width
  isDecimalDigit : ∀ c ∈ digits, isDecimalDigit c = true

theorem fits_digits_iff {width : Nat} {text : List Char} :
    Fits text (List.replicate width decimalDigitRanges) ↔ IsWide width text := by
  rw [fits_replicate_iff]
  exact ⟨fun ⟨hlength, hdigit⟩ => ⟨hlength, hdigit⟩, fun h => ⟨h.length, h.isDecimalDigit⟩⟩

/-- Four, two and two digits of any script with hyphens between them. -/
def HasDateForm (text : List Char) : Prop :=
  ∃ yearText monthText dayText, text = yearText ++ '-' :: (monthText ++ '-' :: dayText) ∧
    IsWide 4 yearText ∧ IsWide 2 monthText ∧ IsWide 2 dayText

theorem map_program_datePattern :
    (ofText? datePattern).map (fun pattern => pattern.program.toList) =
      some (wholeCode dateSets) := by
  decide +kernel

/-- The pattern of dates asks for their form and for nothing else. -/
theorem hasDateForm_iff {text : String} : hasDateForm text = true ↔ HasDateForm text.toList := by
  obtain ⟨pattern, hpattern, hprogram⟩ := Option.map_eq_some_iff.1 map_program_datePattern
  rw [hasDateForm, hpattern, Option.any_some, isIn_iff_fits hprogram]
  simp only [dateSets, fits_append_iff, fits_single_cons_iff, fits_digits_iff]
  constructor
  · rintro ⟨yearText, _, htext, hyear, _, rfl, monthText, _, rfl, hmonth, dayText, rfl, hday⟩
    exact ⟨yearText, monthText, dayText, htext, hyear, hmonth, hday⟩
  · rintro ⟨yearText, monthText, dayText, htext, hyear, hmonth, hday⟩
    exact ⟨yearText, _, htext, hyear, _, rfl, monthText, _, rfl, hmonth, dayText, rfl, hday⟩

/-- So the pattern alone takes digits that are never read as a number. -/
example : hasDateForm "２０２４-08-01" = true := by decide +kernel

end Form

/-! ## The layout -/

variable {text : List Char} {parts : Parts} {year : Int} {month day : Nat} {d : Day}

/-- A year, a month and a day with hyphens between them, and perhaps with blanks before each. -/
def IsDashed (text : List Char) (year : Int) (month day : Nat) : Prop :=
  ∃ yearText monthText dayText, text = yearText ++ '-' :: (monthText ++ '-' :: dayText) ∧
    Indented (IsYearText · year) yearText ∧ Indented (IsNumber 2 · month) monthText ∧
      Indented (IsNumber 2 · day) dayText

/-- The layout of dates takes exactly these texts, for their numbers. -/
theorem Layout.read?_isoDate_iff : isoDate.read? text = some parts ↔
    ∃ year month day, IsDashed text year month day ∧
      parts = { year := year, month := month, day := day } := by
  constructor
  · intro h
    -- What each piece takes is its part of the text, and at the end nothing is left.
    obtain ⟨_, _, htake, h⟩ := exists_of_readFrom?_cons h
    obtain ⟨yearText, year, rfl, hyear, rfl⟩ := Piece.exists_of_take?_year htake
    obtain ⟨_, _, htake, h⟩ := exists_of_readFrom?_cons h
    obtain ⟨rfl, rfl⟩ := Piece.eq_of_take?_fixed htake
    obtain ⟨_, _, htake, h⟩ := exists_of_readFrom?_cons h
    obtain ⟨monthText, month, rfl, hmonth, rfl⟩ := Piece.exists_of_take?_month htake
    obtain ⟨_, _, htake, h⟩ := exists_of_readFrom?_cons h
    obtain ⟨rfl, rfl⟩ := Piece.eq_of_take?_fixed htake
    obtain ⟨_, _, htake, h⟩ := exists_of_readFrom?_cons h
    obtain ⟨dayText, day, rfl, hday, rfl⟩ := Piece.exists_of_take?_day htake
    obtain ⟨rfl, rfl⟩ := eq_of_readFrom?_nil h
    refine ⟨year, month, day, ⟨yearText, monthText, dayText, ?_, hyear, hmonth, hday⟩, rfl⟩
    rw [List.append_nil]
  · rintro ⟨year, month, day, ⟨yearText, monthText, dayText, rfl, hyear, hmonth, hday⟩, rfl⟩
    -- A hyphen or the end of the text stands behind each number.
    have hend := takeNumber?_indented hday noDigit_nil
    rw [List.append_nil] at hend
    have hhyphen : ∀ rest, NoDigit ('-' :: rest) := noDigit_cons rfl
    simp only [Layout.read?, isoDate, readFrom?, Piece.take?,
      takeYear?_indented hyear (hhyphen _), takeNumber?_indented hmonth (hhyphen _), hend,
      takeFixed?, if_true, Option.map_some, Option.bind_eq_bind, Option.bind_some]

/-! ## Both together -/

section Width

variable {width n : Nat} {digits front : List Char}

theorem IsWide.notMem_hyphen (h : IsWide width digits) : '-' ∉ digits :=
  fun hmem => absurd (h.isDecimalDigit '-' hmem) (by decide +kernel)

theorem notMem_hyphen_of_indented (h : Indented (IsNumber width · n) front) : '-' ∉ front := by
  obtain ⟨blanks, digits, hblanks, hdigits, rfl⟩ := h
  intro hmem
  rcases List.mem_append.1 hmem with hblank | hdigit
  · exact absurd (hblanks '-' hblank) (by decide)
  · exact absurd (hdigits.isDigit '-' hdigit) (by decide)

/-- Where a digit of any script comes first, no blanks are left out. -/
theorem isText_of_indented {IsText : List Char → Prop} (h : Indented IsText front)
    (hfirst : ∀ c ∈ front.head?, isDecimalDigit c = true) : IsText front := by
  obtain ⟨blanks, written, hblanks, hwritten, rfl⟩ := h
  cases blanks with
  | nil => exact hwritten
  | cons c blanks =>
    have hblank := isBlank_of_isDecimalDigit (hfirst c rfl)
    rw [hblanks c List.mem_cons_self] at hblank
    cases hblank

/-- Where a digit of any script comes first, a year has no sign. -/
theorem exists_isNumber_of_isYearText (h : IsYearText front year)
    (hfirst : ∀ c ∈ front.head?, isDecimalDigit c = true) :
    ∃ n : Nat, IsNumber 4 front n ∧ year = n := by
  cases h with
  | plain hdigits => exact ⟨_, hdigits, rfl⟩
  | plus => exact absurd (hfirst '+' rfl) (by decide +kernel)
  | minus => exact absurd (hfirst '-' rfl) (by decide +kernel)

theorem isWide_padded (hwidth : 0 < width) (h : n < 10 ^ width) : IsWide width (padded width n) :=
  ⟨length_padded hwidth h, fun _ hc => isDecimalDigit_of_isDigit (isDigit_of_mem_padded hc)⟩

end Width

/-- A text without other hyphens falls into its parts. -/
theorem splitOn_hyphens {first second third : List Char} (hfirst : '-' ∉ first)
    (hsecond : '-' ∉ second) (hthird : '-' ∉ third) :
    (first ++ '-' :: (second ++ '-' :: third)).splitOn '-' = [first, second, third] := by
  have hparts : ∀ part ∈ [first, second, third], '-' ∉ part := by
    simp [hfirst, hsecond, hthird]
  have htext : first ++ '-' :: (second ++ '-' :: third) =
      ['-'].intercalate [first, second, third] := by
    simp [List.intercalate]
  rw [htext, List.splitOn_intercalate _ hparts (by simp)]

/-- What passes both steps is written in ASCII digits in full width. -/
theorem IsDashed.exists_padded (h : IsDashed text year month day) (hform : HasDateForm text) :
    ∃ n : Nat, n < 10 ^ 4 ∧ year = n ∧
      text = padded 4 n ++ '-' :: (padded 2 month ++ '-' :: padded 2 day) := by
  obtain ⟨yearText, monthText, dayText, rfl, hyear, hmonth, hday⟩ := h
  obtain ⟨yearDigits, monthDigits, dayDigits, heq, hyearWide, hmonthWide, hdayWide⟩ := hform
  -- The text begins with a digit, so that its year has neither blanks nor a sign.
  have hfirst : ∀ c ∈ yearText.head?, isDecimalDigit c = true := by
    intro c hc
    obtain ⟨d, others, rfl⟩ : ∃ d others, yearDigits = d :: others :=
      List.exists_cons_of_length_pos (by rw [hyearWide.length]; decide)
    have hhead := congrArg List.head? heq
    rw [List.head?_append, Option.mem_def.1 hc] at hhead
    cases hhead
    exact hyearWide.isDecimalDigit c List.mem_cons_self
  obtain ⟨n, hn, rfl⟩ := exists_isNumber_of_isYearText (isText_of_indented hyear hfirst) hfirst
  -- So both readings of the text have the same parts.
  have hparts := congrArg (·.splitOn '-') heq
  simp only [splitOn_hyphens (notMem_hyphen_of_indented (indented_of_isText hn))
    (notMem_hyphen_of_indented hmonth) (notMem_hyphen_of_indented hday),
    splitOn_hyphens hyearWide.notMem_hyphen hmonthWide.notMem_hyphen hdayWide.notMem_hyphen,
    List.cons.injEq, and_true] at hparts
  obtain ⟨rfl, rfl, rfl⟩ := hparts
  have hmonth' := isText_of_indented hmonth fun c hc =>
    hmonthWide.isDecimalDigit c (List.mem_of_mem_head? hc)
  have hday' := isText_of_indented hday fun c hc =>
    hdayWide.isDecimalDigit c (List.mem_of_mem_head? hc)
  refine ⟨n, ?_, rfl, ?_⟩
  · have hlt := digitsValue_lt hn.isDigit
    rwa [hn.value, hyearWide.length] at hlt
  · rw [← hn.eq_padded hyearWide.length, ← hmonth'.eq_padded hmonthWide.length,
      ← hday'.eq_padded hdayWide.length]

/-- A day of the years 0 to 9999 in the form `YYYY-MM-DD`. -/
structure Day.IsDated (d : Day) (text : List Char) : Prop where
  year : 0 ≤ d.year ∧ d.year ≤ 9999
  text : text = padded 4 d.year.toNat ++ '-' :: (padded 2 d.month ++ '-' :: padded 2 d.day)

theorem IsDashed.isDated (h : IsDashed text d.year d.month d.day) (hform : HasDateForm text) :
    d.IsDated text := by
  obtain ⟨n, hn, hyear, htext⟩ := h.exists_padded hform
  have hnat : d.year.toNat = n := by omega
  exact ⟨by omega, by rw [htext, hnat]⟩

/-- The form of a day passes the pattern. -/
theorem Day.IsDated.hasDateForm (h : d.IsDated text) : HasDateForm text := by
  obtain ⟨hmonth, hday⟩ := d.month_lt_and_day_lt
  have hyear := h.year
  refine ⟨_, _, _, h.text, ?_, ?_, ?_⟩
  · exact isWide_padded (by decide) (show d.year.toNat < 10 ^ 4 by omega)
  · exact isWide_padded (by decide) hmonth
  · exact isWide_padded (by decide) hday

/-- The form of a day is taken by the layout, for the numbers of the day. -/
theorem Day.IsDated.isDashed (h : d.IsDated text) : IsDashed text d.year d.month d.day := by
  obtain ⟨hmonth, hday⟩ := d.month_lt_and_day_lt
  have hyear := isYearText_writeYear d.year
  rw [writeYear, if_pos h.year] at hyear
  refine ⟨_, _, _, h.text, indented_of_isText hyear, ?_, ?_⟩
  · exact indented_of_isText (isNumber_padded (by decide) hmonth)
  · exact indented_of_isText (isNumber_padded (by decide) hday)

theorem Day.IsDated.length (h : d.IsDated text) : text.length = 10 := by
  obtain ⟨yearText, monthText, dayText, rfl, hyear, hmonth, hday⟩ := h.hasDateForm
  simp [hyear.length, hmonth.length, hday.length]

theorem Day.IsDated.ascii (h : d.IsDated text) : ∀ c ∈ text, c.isDigit = true ∨ c = '-' := by
  intro c hc
  rw [h.text] at hc
  simp only [List.mem_append, List.mem_cons] at hc
  obtain hyear | rfl | hmonth | rfl | hday := hc
  · exact .inl (isDigit_of_mem_padded hyear)
  · exact .inr rfl
  · exact .inl (isDigit_of_mem_padded hmonth)
  · exact .inr rfl
  · exact .inl (isDigit_of_mem_padded hday)

/-! ## Reading dates -/

variable {text : String} {moment : Moment} {failure : Failure} {d : Day}

/-- Of a text that passes the pattern, the layout reads the day of which it is the form. -/
theorem bind_day?_eq_some_iff (hform : hasDateForm text = true) :
    (Layout.isoDate.read? text.toList).bind Parts.day? = some d ↔ d.IsDated text.toList := by
  simp only [Option.bind_eq_some_iff, Layout.read?_isoDate_iff]
  constructor
  · rintro ⟨_, ⟨year, month, day, hdashed, rfl⟩, hd⟩
    obtain ⟨rfl, rfl, rfl⟩ := Day.ofParts?_eq_some_iff.1 hd
    exact hdashed.isDated (hasDateForm_iff.1 hform)
  · intro hdated
    exact ⟨_, ⟨_, _, _, hdated.isDashed, rfl⟩, d.ofParts?_self⟩

/-- A text is a date exactly if it is the form of a day. -/
theorem readDate_eq_ok_iff :
    readDate text = .ok moment ↔ ∃ d : Day, d.IsDated text.toList ∧ moment = .startOf d := by
  rw [readDate]
  by_cases hform : hasDateForm text = true
  · rw [if_pos hform]
    constructor
    · intro h
      split at h
      next d hd =>
        cases h
        exact ⟨d, (bind_day?_eq_some_iff hform).1 hd, rfl⟩
      next => cases h
    · rintro ⟨d, hdated, rfl⟩
      rw [(bind_day?_eq_some_iff hform).2 hdated]
  · -- The form is looked at before the day, and the form of a day has it.
    rw [if_neg hform]
    constructor
    · intro h
      cases h
    · rintro ⟨d, hdated, -⟩
      exact absurd (hasDateForm_iff.2 hdated.hasDateForm) hform

/-- The only failure is the one that names the text. -/
theorem eq_badDate_of_readDate (h : readDate text = .error failure) : failure = .badDate text := by
  -- Either step may fail, and both fail in the same way.
  rw [readDate] at h
  split at h
  · split at h
    · cases h
    · cases h
      rfl
  · cases h
    rfl

/-- A text that is the form of no day is no date. -/
theorem readDate_eq_error_iff : readDate text = .error failure ↔
    failure = .badDate text ∧ ∀ d : Day, ¬d.IsDated text.toList := by
  constructor
  · intro h
    refine ⟨eq_badDate_of_readDate h, fun d hdated => ?_⟩
    rw [readDate_eq_ok_iff.2 ⟨d, hdated, rfl⟩] at h
    cases h
  · rintro ⟨rfl, hnone⟩
    cases hresult : readDate text with
    | ok moment =>
      obtain ⟨d, hdated, -⟩ := readDate_eq_ok_iff.1 hresult
      exact absurd hdated (hnone d)
    | error failure => rw [eq_badDate_of_readDate hresult]

/-- What is made of a text that may be a date. -/
structure ReadsDate (text : String) : Prop where
  /-- The form of a day is read as the start of this day. -/
  ok_iff : ∀ moment, readDate text = .ok moment ↔
    ∃ d : Day, d.IsDated text.toList ∧ moment = .startOf d
  /-- Any other text is refused, and the failure names it. -/
  error_iff : ∀ failure, readDate text = .error failure ↔
    failure = .badDate text ∧ ∀ d : Day, ¬d.IsDated text.toList
  /-- A text is the form of one day at most. -/
  unique : ∀ d e : Day, d.IsDated text.toList → e.IsDated text.toList → d = e
  /-- It then has ten characters: ASCII digits and hyphens. -/
  ascii : ∀ d : Day, d.IsDated text.toList →
    text.toList.length = 10 ∧ ∀ c ∈ text.toList, c.isDigit = true ∨ c = '-'

/-- The start of a day tells the day. -/
theorem readDate_eq_startOf_iff :
    readDate text = .ok (.startOf d) ↔ d.IsDated text.toList := by
  rw [readDate_eq_ok_iff]
  constructor
  · rintro ⟨e, hdated, heq⟩
    cases heq
    exact hdated
  · exact fun hdated => ⟨d, hdated, rfl⟩

theorem Day.IsDated.unique {e : Day} (hd : d.IsDated text.toList) (he : e.IsDated text.toList) :
    d = e := by
  have hread := readDate_eq_startOf_iff.2 hd
  rw [readDate_eq_startOf_iff.2 he] at hread
  cases hread
  rfl

theorem readsDate (text : String) : ReadsDate text where
  ok_iff _ := readDate_eq_ok_iff
  error_iff _ := readDate_eq_error_iff
  unique _ _ := Day.IsDated.unique
  ascii _ hdated := ⟨hdated.length, hdated.ascii⟩

/-- The texts that are dates are the forms of the days of the years 0 to 9999, one for each day. -/
theorem readDate_bijective :
    (∀ d : Day, (0 ≤ d.year ∧ d.year ≤ 9999) ↔ ∃! text, readDate text = .ok (.startOf d)) ∧
      ∀ text, ReadsDate text := by
  refine ⟨fun d => ⟨fun hyear => ?_, ?_⟩, readsDate⟩
  · refine ⟨String.ofList _, readDate_eq_startOf_iff.2 ⟨hyear, String.toList_ofList⟩, ?_⟩
    -- The text is determined by the numbers of the day.
    intro text hread
    have htext := (readDate_eq_startOf_iff.1 hread).text
    rw [← htext, String.ofList_toList]
  · rintro ⟨text, hread, -⟩
    exact (readDate_eq_startOf_iff.1 hread).year

end Calendar

end Footage
