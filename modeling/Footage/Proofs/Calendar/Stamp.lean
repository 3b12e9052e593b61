import Footage.Calendar.Stamp
import Footage.Proofs.Calendar.Offset
import Footage.Proofs.Calendar.Pieces
import Footage.Proofs.Stored.Moment
import Mathlib.Data.Option.Basic

/-!
# Time stamps are read as they are written

A time stamp is a moment to whole seconds, perhaps a fraction of up to nine digits, and perhaps an
offset from universal time. With an offset it goes through universal time, which may have another
day or another year, and comes back as it was written. Without one it is read by its layout, to the
same moment. Blanks around the stamp do not matter.

## Main definitions

* `Calendar.IsOffsetText`: an offset, as time stamps have it.
* `Calendar.Moment.ReadsAsWritten`: what is read from the time stamps of a moment.

## Main results

* `Calendar.readOffsetMoment?_append`: time stamps with an offset.
* `Calendar.Layout.read?_feedMoment`: time stamps without one.
* `Calendar.Moment.readsAsWritten`: all of this together.
-/

namespace Footage.Calendar

open Text

variable {fraction suffix rest digits : List Char} {n width : Nat} {minutes : Int} {m : Moment}

/-! ## Offsets -/

/-- An offset in minutes, as time stamps have it: universal time itself, or a sign, hours and
minutes. -/
inductive IsOffsetText : List Char → Int → Prop
  | universal : IsOffsetText ['Z'] 0
  | ahead {hours minutes : Nat} (hhours : hours < 24) (hminutes : minutes < 60) :
      IsOffsetText ('+' :: (padded 2 hours ++ ':' :: padded 2 minutes)) (hours * 60 + minutes)
  | behind {hours minutes : Nat} (hhours : hours < 24) (hminutes : minutes < 60) :
      IsOffsetText ('-' :: (padded 2 hours ++ ':' :: padded 2 minutes)) (-(hours * 60 + minutes))

theorem IsOffsetText.endsFraction (h : IsOffsetText suffix minutes) : EndsFraction suffix := by
  rintro c hc
  cases h <;> cases hc <;> decide

/-- A number of full width is taken, whatever follows it. -/
theorem takeExactly?_padded (hwidth : 0 < width) (h : n < 10 ^ width) (rest : List Char) :
    takeExactly? width (padded width n ++ rest) = some (n, rest) := by
  have hlength := length_padded hwidth h
  have hall : (padded width n).all Char.isDigit = true :=
    List.all_eq_true.2 fun c hc => isDigit_of_mem_padded hc
  rw [takeExactly?]
  simp [List.take_left' hlength, List.drop_left' hlength, hlength, hall, digitsValue_padded]

/-- Hours and minutes after a sign are an offset to one side or the other. -/
theorem takeOffset?_signed {sign : Char} {hours minutes : Nat} (hsign : sign = '+' ∨ sign = '-')
    (hhours : hours < 24) (hminutes : minutes < 60) : ∃ offset : Offset,
      offset.minutes = hours * 60 + minutes ∧
        takeOffset? (sign :: (padded 2 hours ++ ':' :: padded 2 minutes)) =
          some (if sign = '+' then offset else offset.opposite, []) := by
  have htwo : ∀ {n : Nat}, n < 60 → ∀ rest, takeExactly? 2 (padded 2 n ++ rest) = some (n, rest) :=
    fun hn => takeExactly?_padded (by decide) (Nat.lt_trans hn (by decide))
  have hend := htwo hminutes []
  rw [List.append_nil] at hend
  refine ⟨⟨hours * 60 + minutes, by omega⟩, rfl, ?_⟩
  rcases hsign with rfl | rfl
  all_goals
    simp [takeOffset?, htwo (Nat.lt_trans hhours (by decide)), hend, takeFixed?, Offset.ahead?,
      hhours, hminutes]

theorem takeOffset?_of_isOffsetText (h : IsOffsetText suffix minutes) :
    ∃ offset, takeOffset? suffix = some (offset, []) ∧ offset.minutes = minutes := by
  cases h with
  | universal => exact ⟨.zero, rfl, rfl⟩
  | ahead hhours hminutes =>
    obtain ⟨offset, hoffset, htake⟩ := takeOffset?_signed (.inl rfl) hhours hminutes
    exact ⟨offset, htake, hoffset⟩
  | behind hhours hminutes =>
    obtain ⟨offset, hoffset, htake⟩ := takeOffset?_signed (.inr rfl) hhours hminutes
    refine ⟨offset.opposite, htake, ?_⟩
    rw [Offset.minutes_opposite, hoffset]

/-! ## Time stamps -/

section Take

variable {β : Type}

theorem takeFixed?_bind (c : Char) (rest : List Char) (f : List Char → Option β) :
    (takeFixed? c (c :: rest)).bind f = f rest := by
  rw [takeFixed?, if_pos rfl, Option.bind_some]

theorem takeExactly?_bind (hwidth : 0 < width) (h : n < 10 ^ width) (rest : List Char)
    (f : Nat × List Char → Option β) :
    (takeExactly? width (padded width n ++ rest)).bind f = f (n, rest) := by
  rw [takeExactly?_padded hwidth h, Option.bind_some]

theorem takeTwo?_bind (h : n < 100) (rest : List Char) (f : Nat × List Char → Option β) :
    (takeExactly? 2 (padded 2 n ++ rest)).bind f = f (n, rest) :=
  takeExactly?_bind (by decide) h rest f

end Take

/-- The text of a moment is taken up to its whole seconds, if its year has four digits. -/
theorem readOffsetMoment?_writeSeconds (hyear : 0 ≤ m.day.year ∧ m.day.year ≤ 9999)
    (hfraction : takeFraction? rest = some (m.clock.nanosecond, suffix)) :
    readOffsetMoment? (m.writeSeconds ++ rest) = (do
      let (offset, rest) ← takeOffset? suffix
      guard rest.isEmpty
      OffsetMoment.ofLocal? m offset) := by
  obtain ⟨hmonth, hday⟩ := m.day.month_lt_and_day_lt
  obtain ⟨hhour, hminute, hsecond⟩ := m.clock.lt_hundred
  have hcast : ((m.day.year.toNat : Nat) : Int) = m.day.year := by omega
  have hfour : m.day.year.toNat < 10 ^ 4 := by omega
  have hmoment := m.moment?_parts
  rw [Moment.parts] at hmoment
  rw [Moment.writeSeconds, Day.write, Clock.writeSeconds, writeYear, if_pos hyear]
  simp only [List.append_assoc, List.cons_append]
  -- Each number is taken off before the rest of the reader is looked at. Together they name the
  -- moment.
  simp only [readOffsetMoment?, ↓Option.bind_eq_bind,
    ↓takeExactly?_bind (show 0 < 4 by decide) hfour, ↓takeTwo?_bind hmonth, ↓takeTwo?_bind hday,
    ↓takeTwo?_bind hhour, ↓takeTwo?_bind hminute, ↓takeTwo?_bind hsecond, ↓takeFixed?_bind,
    ↓Option.bind_some, hfraction, hcast, hmoment]

/-- A moment is read with its offset as the one of universal time, and seen from its place as it was
written. -/
structure IsReadWithOffset (text : List Char) (minutes : Int) (m : Moment) : Prop where
  exists_offsetMoment : ∃ read, readOffsetMoment? text = some read ∧
    read.offset.minutes = minutes ∧ m.shift? (-minutes) = some read.universal ∧
      read.local? = some m

theorem readOffsetMoment?_append (hyear : 0 ≤ m.day.year ∧ m.day.year ≤ 9999)
    (hfraction : IsFraction fraction m.clock.nanosecond) (hsuffix : IsOffsetText suffix minutes) :
    IsReadWithOffset (m.writeSeconds ++ (fraction ++ suffix)) minutes m := by
  obtain ⟨offset, hoffset, rfl⟩ := takeOffset?_of_isOffsetText hsuffix
  -- The calendar reaches far beyond the years of four digits.
  have hwithin : firstYear < m.day.year ∧ m.day.year < lastYear := by
    unfold firstYear lastYear
    omega
  obtain ⟨read, hread⟩ := OffsetMoment.exists_ofLocal? hwithin.1 hwithin.2 offset
  obtain ⟨universal, hshift, rfl⟩ := Option.map_eq_some_iff.1 hread
  refine ⟨⟨universal, offset⟩, ?_, rfl, hshift, OffsetMoment.local?_of_ofLocal? hread⟩
  rw [readOffsetMoment?_writeSeconds hyear (takeFraction?_append hfraction hsuffix.endsFraction),
    hoffset]
  simpa using hread

/-- Without an offset, nothing is read by way of universal time. -/
theorem readOffsetMoment?_of_no_offset (hyear : 0 ≤ m.day.year ∧ m.day.year ≤ 9999)
    (hfraction : IsFraction fraction m.clock.nanosecond) :
    readOffsetMoment? (m.writeSeconds ++ fraction) = none := by
  rw [readOffsetMoment?_writeSeconds hyear (takeFraction?_of_isFraction hfraction)]
  rfl

/-- The layout of feeds takes the text of a moment apart into its numbers. -/
theorem Layout.read?_feedMoment (hfraction : IsFraction fraction m.clock.nanosecond) :
    feedMoment.read? (m.writeSeconds ++ fraction) = some m.parts := by
  obtain ⟨hmonth, hday⟩ := m.day.month_lt_and_day_lt
  obtain ⟨hhour, hminute, hsecond⟩ := m.clock.lt_hundred
  have hread := takeFraction?_of_isFraction hfraction
  rw [Layout.read?, feedMoment, isoDate, Moment.writeSeconds, Day.write, Clock.writeSeconds]
  simp only [List.append_assoc, List.cons_append, List.nil_append]
  simp only [readFrom?, Piece.take?, takeYear?_writeYear, takeNumber?_two hmonth,
    takeNumber?_two hday, takeNumber?_two hhour, takeNumber?_two hminute, takeNumber?_two hsecond,
    hread, takeFixed?, if_true, Option.map_some, Option.bind_eq_bind, Option.bind_some]
  rfl

/-! ## Blanks around time stamps -/

/-- A text ends with another character than a blank. -/
def NoBlankEnd (text : List Char) : Prop :=
  ∀ c ∈ text.getLast?, isBlank c = false

theorem noBlankEnd_append (front : List Char) (hne : rest ≠ []) (h : NoBlankEnd rest) :
    NoBlankEnd (front ++ rest) := by
  rwa [NoBlankEnd, List.getLast?_append_of_ne_nil front hne]

theorem noBlankEnd_digits (h : ∀ c ∈ digits, c.isDigit = true) : NoBlankEnd digits := fun c hc =>
  isBlank_of_isDigit (h c (List.mem_of_getLast? hc))

/-- A number at the end of a text, behind some other character. -/
theorem noBlankEnd_padded (front : List Char) (c : Char) (width n : Nat) :
    NoBlankEnd (front ++ c :: padded width n) := by
  rw [List.append_cons]
  exact noBlankEnd_append _ (padded_ne_nil width n)
    (noBlankEnd_digits fun c hc => isDigit_of_mem_padded hc)

theorem noBlankEnd_writeSeconds (m : Moment) : NoBlankEnd m.writeSeconds := by
  rw [Moment.writeSeconds, List.append_cons]
  exact noBlankEnd_append _ (by simp [Clock.writeSeconds, padded_ne_nil])
    (noBlankEnd_padded _ ':' 2 m.clock.second)

theorem IsFraction.noBlankEnd (h : IsFraction fraction n) : NoBlankEnd fraction := by
  cases h with
  | none =>
    rintro c hc
    cases hc
  | point hdigits =>
    exact noBlankEnd_append ['.'] hdigits.ne_nil (noBlankEnd_digits hdigits.isDigit)

theorem IsOffsetText.noBlankEnd (h : IsOffsetText suffix minutes) : NoBlankEnd suffix := by
  cases h with
  | universal =>
    rintro c hc
    cases hc
    decide
  | ahead => exact noBlankEnd_padded ('+' :: _) ':' 2 _
  | behind => exact noBlankEnd_padded ('-' :: _) ':' 2 _

/-- What a time stamp may end with: nothing, or an offset. -/
def IsSuffix (suffix : List Char) : Prop :=
  suffix = [] ∨ ∃ minutes, IsOffsetText suffix minutes

/-- A time stamp ends with its seconds, with its fraction or with its offset. -/
theorem noBlankEnd_stamp (hfraction : IsFraction fraction n) (hsuffix : IsSuffix suffix) :
    NoBlankEnd (m.writeSeconds ++ (fraction ++ suffix)) := by
  rw [← List.append_assoc]
  by_cases hempty : suffix = []
  · subst hempty
    rw [List.append_nil]
    by_cases hnone : fraction = []
    · subst hnone
      rw [List.append_nil]
      exact noBlankEnd_writeSeconds m
    · exact noBlankEnd_append _ hnone hfraction.noBlankEnd
  · obtain ⟨minutes, hoffset⟩ := hsuffix.resolve_left hempty
    exact noBlankEnd_append _ hempty hoffset.noBlankEnd

/-- There is nothing to trim off a time stamp, which begins with a year. -/
theorem trim_stamp (hfraction : IsFraction fraction n) (hsuffix : IsSuffix suffix) :
    trim (m.writeSeconds ++ (fraction ++ suffix)) = m.writeSeconds ++ (fraction ++ suffix) := by
  have hyear := isYearText_writeYear m.day.year
  refine trim_eq_self ?_ ?_ (noBlankEnd_stamp hfraction hsuffix)
  · simp [Moment.writeSeconds, Day.write, hyear.ne_nil]
  · intro c hc
    rw [Moment.writeSeconds, Day.write] at hc
    simp only [List.append_assoc] at hc
    rw [List.head?_append_of_ne_nil _ hyear.ne_nil] at hc
    exact hyear.isBlank_of_mem_head? hc

/-! ## All time stamps of a moment -/

/-- What is read from the time stamps of a moment, which are its text to whole seconds, its fraction
and perhaps an offset. -/
structure Moment.ReadsAsWritten (m : Moment) (fraction : List Char) : Prop where
  /-- A time stamp with or without an offset is read as the moment, whatever blanks surround it. -/
  stamp : ∀ before after suffix, IsBlankRun before → IsBlankRun after → IsSuffix suffix →
    readStamp? (before ++ (m.writeSeconds ++ (fraction ++ suffix)) ++ after) = some m
  /-- An offset takes the moment to universal time, and back again. -/
  withOffset : ∀ suffix minutes, IsOffsetText suffix minutes →
    IsReadWithOffset (m.writeSeconds ++ (fraction ++ suffix)) minutes m
  /-- Without an offset, the layout of feeds gives the same moment. -/
  withoutOffset : (Layout.feedMoment.read? (m.writeSeconds ++ fraction)).bind Parts.moment? = some m

/-- Every time stamp of a moment is read as it is written, if its year has four digits. -/
theorem Moment.readsAsWritten (m : Moment) (fraction : List Char)
    (hyear : 0 ≤ m.day.year ∧ m.day.year ≤ 9999)
    (hfraction : IsFraction fraction m.clock.nanosecond) : m.ReadsAsWritten fraction := by
  have hplain :
      (Layout.feedMoment.read? (m.writeSeconds ++ fraction)).bind Parts.moment? = some m := by
    rw [Layout.read?_feedMoment hfraction, Option.bind_some, m.moment?_parts]
  refine ⟨?_, fun suffix minutes => readOffsetMoment?_append hyear hfraction, hplain⟩
  intro before after suffix hbefore hafter hsuffix
  rw [readStamp?, trim_pad hbefore hafter, trim_stamp hfraction hsuffix]
  rcases hsuffix with rfl | ⟨minutes, hoffset⟩
  · -- Without an offset, the way by universal time fails, and the layout is left.
    rw [List.append_nil, readOffsetMoment?_of_no_offset hyear hfraction]
    exact hplain
  · -- With one, the local time of what was read is the moment again.
    obtain ⟨read, hread, -, -, hlocal⟩ :=
      (readOffsetMoment?_append hyear hfraction hoffset).exists_offsetMoment
    rw [hread, Option.bind_some, hlocal]
    rfl

/-- Half a second into the year 0. -/
def Moment.startOfYearZero : Moment where
  day := ⟨0, 1, 1, by decide⟩
  clock := ⟨0, 0, 0, 500000000, by decide⟩

/-- Far ahead of universal time, the year 0 begins in the year before it. -/
theorem Moment.startOfYearZero_readsAsWritten :
    startOfYearZero.ReadsAsWritten ".5".toList ∧
      readStamp? "\t0000-01-01T00:00:00.5+23:59 ".toList = some startOfYearZero ∧
        (readOffsetMoment? "0000-01-01T00:00:00.5+23:59".toList).map (·.universal.day.year) =
          some (-1) := by
  have hfraction : IsFraction ".5".toList startOfYearZero.clock.nanosecond :=
    @IsFraction.point ['5'] 5 ⟨by decide, by decide, List.forall_mem_singleton.2 rfl, rfl⟩
  have hreads := readsAsWritten startOfYearZero ".5".toList (by decide) hfraction
  have hoffset : IsOffsetText "+23:59".toList (23 * 60 + 59) :=
    .ahead (show 23 < 24 by decide) (show 59 < 60 by decide)
  refine ⟨hreads, ?_, by decide +kernel⟩
  exact hreads.stamp ['\t'] [' '] "+23:59".toList (List.forall_mem_singleton.2 rfl)
    (List.forall_mem_singleton.2 rfl) (.inr ⟨_, hoffset⟩)

end Footage.Calendar
