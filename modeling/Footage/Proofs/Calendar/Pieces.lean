import Footage.Calendar.Layout
import Footage.Proofs.Trimming
import Mathlib.Data.List.TakeWhile

/-!
# Pieces of written dates

What the pieces of a layout take off a text: blanks and then a number of at most some digits, or a
year, which may have a sign. A piece takes as much as it can, so that its text must end where no
digit follows.

## Main definitions

* `Calendar.IsNumber` and `Calendar.IsFull`: digits that denote a number, and digits of full width.
* `Calendar.IsYearText`: a year, with or without a sign.
* `Calendar.IsFraction`: a fraction of a second.
* `Calendar.Indented`: blanks before a text.

## Main results

* `Calendar.takeNumber?_indented` and `Calendar.exists_indented_number`: numbers.
* `Calendar.takeYear?_indented` and `Calendar.exists_indented_year`: years.
* `Calendar.takeFraction?_append`: fractions.
-/

namespace Footage

open Text

namespace Calendar

variable {text rest digits written : List Char} {width n : Nat} {year : Int}

/-! ## Numbers -/

/-- Digits that denote a number: at least one, and no more than a width. -/
structure IsNumber (width : Nat) (digits : List Char) (n : Nat) : Prop where
  ne_nil : digits ≠ []
  length_le : digits.length ≤ width
  isDigit : ∀ c ∈ digits, c.isDigit = true
  value : digitsValue digits = n

/-- The width does not matter, as long as the digits do not exceed it. -/
theorem IsNumber.of_length_le {other : Nat} (h : IsNumber width digits n)
    (hle : digits.length ≤ other) : IsNumber other digits n :=
  ⟨h.ne_nil, hle, h.isDigit, h.value⟩

/-- The digits within a width are those of the number, if no digit follows. -/
theorem IsNumber.takeWhile_take_append (h : IsNumber width digits n) (hrest : NoDigit rest) :
    ((digits ++ rest).take width).takeWhile Char.isDigit = digits := by
  have hfront : NoDigit (rest.take (width - digits.length)) := by
    intro c hc
    rw [List.head?_take] at hc
    split_ifs at hc
    · cases hc
    · exact hrest c hc
  rw [List.take_append, List.take_of_length_le h.length_le]
  exact takeWhile_digits_append h.isDigit hfront

/-- A number ends where no digit follows. -/
theorem takeNumber?_append (h : IsNumber width digits n) (hrest : NoDigit rest) :
    takeNumber? width (digits ++ rest) = some (n, rest) := by
  rw [takeNumber?]
  simp [h.takeWhile_take_append hrest, h.ne_nil, h.value]

theorem exists_of_takeNumber? (h : takeNumber? width text = some (n, rest)) :
    ∃ digits, text = digits ++ rest ∧ IsNumber width digits n := by
  rw [takeNumber?] at h
  split_ifs at h with hempty
  cases h
  have hprefix : (text.take width).takeWhile Char.isDigit <+: text :=
    (List.takeWhile_prefix _).trans (List.take_prefix _ _)
  refine ⟨(text.take width).takeWhile Char.isDigit, ?_, ?_, ?_, ?_, rfl⟩
  · exact (List.prefix_iff_eq_append.1 hprefix).symm
  · simpa using hempty
  · exact (List.takeWhile_prefix _).length_le.trans (List.length_take_le _ _)
  · exact fun c hc => List.mem_takeWhile_imp hc

/-- A number of full width is taken, whatever follows it. -/
theorem takeNumber?_of_length_eq (h : IsNumber width digits n) (hlength : digits.length = width)
    (rest : List Char) : takeNumber? width (digits ++ rest) = some (n, rest) := by
  have hdigits : digits.takeWhile Char.isDigit = digits := List.takeWhile_eq_self_iff.2 h.isDigit
  rw [takeNumber?]
  simp [List.take_left' hlength, hdigits, h.ne_nil, h.value]

/-- A number is written in digits of its own, whatever width they are padded to. -/
theorem isNumber_padded_length (width n : Nat) :
    IsNumber (padded width n).length (padded width n) n where
  ne_nil := padded_ne_nil width n
  length_le := Nat.le_refl _
  isDigit _ := isDigit_of_mem_padded
  value := digitsValue_padded width n

/-- A number that fits its width is written in this width. -/
theorem isNumber_padded (hwidth : 0 < width) (h : n < 10 ^ width) :
    IsNumber width (padded width n) n :=
  (isNumber_padded_length width n).of_length_le (length_padded hwidth h).le

/-- A number in full width is written in one way. -/
theorem IsNumber.eq_padded (h : IsNumber width digits n) (hlength : digits.length = width) :
    digits = padded width n := by
  have hwidth : 0 < width := hlength ▸ List.length_pos_iff.2 h.ne_nil
  rw [eq_padded_of_length hwidth h.isDigit hlength, h.value]

theorem IsNumber.isBlank_of_mem_head? (h : IsNumber width digits n) {c : Char}
    (hc : c ∈ digits.head?) : isBlank c = false :=
  isBlank_of_isDigit (h.isDigit c (List.mem_of_mem_head? hc))

/-- As many digits as a width says. -/
structure IsFull (width : Nat) (digits : List Char) : Prop where
  length : digits.length = width
  isDigit : ∀ c ∈ digits, c.isDigit = true

theorem isFull_padded (hwidth : 0 < width) (h : n < 10 ^ width) :
    IsFull width (padded width n) where
  length := length_padded hwidth h
  isDigit _ := isDigit_of_mem_padded

theorem IsFull.isNumber (hwidth : 0 < width) (h : IsFull width digits) :
    IsNumber width digits (digitsValue digits) where
  ne_nil := List.length_pos_iff.1 (h.length ▸ hwidth)
  length_le := h.length.le
  isDigit := h.isDigit
  value := rfl

theorem IsFull.eq_padded (hwidth : 0 < width) (h : IsFull width digits) :
    digits = padded width (digitsValue digits) :=
  (h.isNumber hwidth).eq_padded h.length

/-! ## Years -/

/-- A year as layouts take it: up to four digits, or a sign and any number of digits. -/
inductive IsYearText : List Char → Int → Prop
  | plain {digits : List Char} {n : Nat} (hdigits : IsNumber 4 digits n) : IsYearText digits n
  | plus {digits : List Char} {width n : Nat} (hdigits : IsNumber width digits n) :
      IsYearText ('+' :: digits) n
  | minus {digits : List Char} {width n : Nat} (hdigits : IsNumber width digits n) :
      IsYearText ('-' :: digits) (-n)

/-- After a sign, the width of the digits does not matter. -/
theorem takeDigits?_append (h : IsNumber width digits n) (hrest : NoDigit rest) :
    takeDigits? (digits ++ rest) = some (n, rest) :=
  takeNumber?_append (h.of_length_le (by simp)) hrest

theorem takeYear?_append (h : IsYearText written year) (hrest : NoDigit rest) :
    takeYear? (written ++ rest) = some (year, rest) := by
  cases h with
  | plain hdigits =>
    have htake := takeNumber?_append hdigits hrest
    obtain ⟨c, others, rfl, hc⟩ := exists_digit_cons hdigits.ne_nil hdigits.isDigit
    -- A digit is no sign.
    unfold takeYear?
    split
    next heq =>
      cases heq
      exact absurd hc (by decide)
    next heq =>
      cases heq
      exact absurd hc (by decide)
    next => rw [htake]; rfl
  | plus hdigits =>
    rw [List.cons_append, takeYear?, takeDigits?_append hdigits hrest]
    rfl
  | minus hdigits =>
    rw [List.cons_append, takeYear?, takeDigits?_append hdigits hrest]
    rfl

theorem exists_of_takeYear? (h : takeYear? text = some (year, rest)) :
    ∃ written, text = written ++ rest ∧ IsYearText written year := by
  unfold takeYear? at h
  -- A minus sign, a plus sign or neither.
  split at h
  · obtain ⟨⟨n, others⟩, hdigits, heq⟩ := Option.map_eq_some_iff.1 h
    cases heq
    obtain ⟨digits, rfl, hnumber⟩ := exists_of_takeNumber? hdigits
    exact ⟨'-' :: digits, rfl, .minus hnumber⟩
  · obtain ⟨⟨n, others⟩, hdigits, heq⟩ := Option.map_eq_some_iff.1 h
    cases heq
    obtain ⟨digits, rfl, hnumber⟩ := exists_of_takeNumber? hdigits
    exact ⟨'+' :: digits, rfl, .plus hnumber⟩
  · obtain ⟨⟨n, others⟩, hdigits, heq⟩ := Option.map_eq_some_iff.1 h
    cases heq
    obtain ⟨digits, rfl, hnumber⟩ := exists_of_takeNumber? hdigits
    exact ⟨digits, rfl, .plain hnumber⟩

theorem IsYearText.isBlank_of_mem_head? (h : IsYearText written year) {c : Char}
    (hc : c ∈ written.head?) : isBlank c = false := by
  cases h with
  | plain hdigits => exact hdigits.isBlank_of_mem_head? hc
  | plus => cases hc; rfl
  | minus => cases hc; rfl

theorem IsYearText.ne_nil (h : IsYearText written year) : written ≠ [] := by
  cases h with
  | plain hdigits => exact hdigits.ne_nil
  | plus => exact List.cons_ne_nil _ _
  | minus => exact List.cons_ne_nil _ _

/-- Nothing is trimmed off the start of a year. -/
theorem IsYearText.trimStart_append (h : IsYearText written year) (rest : List Char) :
    trimStart (written ++ rest) = written ++ rest :=
  Text.trimStart_append h.ne_nil (fun _ hc => h.isBlank_of_mem_head? hc) rest

/-- A year is written with a sign where it needs one. -/
theorem isYearText_writeYear (year : Int) : IsYearText (writeYear year) year := by
  rw [writeYear]
  split_ifs with hplain hnegative
  · have hyear : ((year.toNat : Nat) : Int) = year := by omega
    have htext := IsYearText.plain
      (isNumber_padded (show 0 < 4 by decide) (show year.toNat < 10 ^ 4 by omega))
    rwa [hyear] at htext
  · have hyear : -((year.natAbs : Nat) : Int) = year := by omega
    have htext := IsYearText.minus (isNumber_padded_length 4 year.natAbs)
    rwa [hyear] at htext
  · have hyear : ((year.natAbs : Nat) : Int) = year := by omega
    have htext := IsYearText.plus (isNumber_padded_length 4 year.natAbs)
    rwa [hyear] at htext

/-! ## Fractions -/

/-- A fraction of a second in nanoseconds: nothing, or a point and up to nine digits. -/
inductive IsFraction : List Char → Nat → Prop
  | none : IsFraction [] 0
  | point {digits : List Char} {n : Nat} (hdigits : IsNumber 9 digits n) :
      IsFraction ('.' :: digits) (n * 10 ^ (9 - digits.length))

/-- A number that fits its width is the fraction with these digits. -/
theorem isFraction_padded (hwidth : 0 < width) (hle : width ≤ 9) (h : n < 10 ^ width) :
    IsFraction ('.' :: padded width n) (n * 10 ^ (9 - width)) := by
  have hlength := length_padded hwidth h
  have hfraction :=
    IsFraction.point ((isNumber_padded hwidth h).of_length_le (hlength.trans_le hle))
  rwa [hlength] at hfraction

/-- Neither a digit nor a point stands at the start of a text. -/
def EndsFraction (text : List Char) : Prop :=
  ∀ c ∈ text.head?, c.isDigit = false ∧ c ≠ '.'

theorem endsFraction_nil : EndsFraction [] := by
  rintro c hc
  cases hc

theorem takeNanoseconds?_append (h : IsNumber 9 digits n) (hrest : NoDigit rest) :
    takeNanoseconds? (digits ++ rest) = some (n * 10 ^ (9 - digits.length), rest) := by
  rw [takeNanoseconds?, dropWhile_digits_append h.isDigit hrest]
  simp [h.takeWhile_take_append hrest, h.ne_nil, h.value]

/-- A fraction ends where neither a digit nor a point follows. -/
theorem takeFraction?_append (h : IsFraction written n) (hrest : EndsFraction rest) :
    takeFraction? (written ++ rest) = some (n, rest) := by
  cases h with
  | none =>
    unfold takeFraction?
    split
    -- Without a fraction, a point could only come from what follows.
    next heq => exact absurd rfl (hrest '.' (by rw [← List.nil_append rest, heq]; rfl)).2
    next => rfl
  | point hdigits => exact takeNanoseconds?_append hdigits fun c hc => (hrest c hc).1

/-- A fraction may end a text. -/
theorem takeFraction?_of_isFraction (h : IsFraction written n) :
    takeFraction? written = some (n, []) := by
  simpa using takeFraction?_append h endsFraction_nil

/-! ## Blanks before a piece -/

/-- A text of some kind with blanks before it. -/
def Indented (IsText : List Char → Prop) (text : List Char) : Prop :=
  ∃ blanks written, IsBlankRun blanks ∧ IsText written ∧ text = blanks ++ written

variable {IsText : List Char → Prop}

/-- No blanks need to stand before a piece. -/
theorem indented_of_isText (h : IsText text) : Indented IsText text :=
  ⟨[], text, isBlankRun_nil, h, rfl⟩

/-- Blanks are left out before a text that begins with another character. -/
theorem exists_trimStart_append (h : Indented IsText text)
    (hne : ∀ written, IsText written → written ≠ [])
    (hfirst : ∀ written, IsText written → ∀ c ∈ written.head?, isBlank c = false) :
    ∃ written, IsText written ∧ ∀ rest, trimStart (text ++ rest) = written ++ rest := by
  obtain ⟨blanks, written, hblanks, hwritten, rfl⟩ := h
  refine ⟨written, hwritten, fun rest => ?_⟩
  rw [List.append_assoc, trimStart_blanks hblanks,
    Text.trimStart_append (hne written hwritten) (hfirst written hwritten)]

/-- What is found behind blanks is a text with blanks before it. -/
theorem exists_indented (h : trimStart text = written ++ rest) (hwritten : IsText written) :
    ∃ front, text = front ++ rest ∧ Indented IsText front := by
  have hblanks : IsBlankRun (text.takeWhile isBlank) := fun c hc => List.mem_takeWhile_imp hc
  refine ⟨text.takeWhile isBlank ++ written, ?_, _, written, hblanks, hwritten, rfl⟩
  rw [List.append_assoc, ← h, trimStart, List.takeWhile_append_dropWhile]

theorem takeNumber?_indented (h : Indented (IsNumber width · n) text) (hrest : NoDigit rest) :
    takeNumber? width (trimStart (text ++ rest)) = some (n, rest) := by
  obtain ⟨digits, hdigits, htrim⟩ := exists_trimStart_append h (fun _ h => h.ne_nil)
    fun _ h _ hc => h.isBlank_of_mem_head? hc
  rw [htrim rest]
  exact takeNumber?_append hdigits hrest

theorem exists_indented_number (h : takeNumber? width (trimStart text) = some (n, rest)) :
    ∃ front, text = front ++ rest ∧ Indented (IsNumber width · n) front := by
  obtain ⟨digits, htext, hdigits⟩ := exists_of_takeNumber? h
  exact exists_indented htext hdigits

theorem takeYear?_indented (h : Indented (IsYearText · year) text) (hrest : NoDigit rest) :
    takeYear? (trimStart (text ++ rest)) = some (year, rest) := by
  obtain ⟨written, hwritten, htrim⟩ := exists_trimStart_append h (fun _ h => h.ne_nil)
    fun _ h _ hc => h.isBlank_of_mem_head? hc
  rw [htrim rest]
  exact takeYear?_append hwritten hrest

theorem exists_indented_year (h : takeYear? (trimStart text) = some (year, rest)) :
    ∃ front, text = front ++ rest ∧ Indented (IsYearText · year) front := by
  obtain ⟨written, htext, hwritten⟩ := exists_of_takeYear? h
  exact exists_indented htext hwritten

theorem takeFixed?_eq_some_iff {c : Char} : takeFixed? c text = some rest ↔ text = c :: rest := by
  cases text with
  | nil => simp [takeFixed?]
  | cons d others => simp [takeFixed?, eq_comm]

/-! ## What a piece takes -/

section Take

variable {parts next result : Parts} {piece : Piece} {layout : Layout}

theorem Layout.exists_of_readFrom?_cons (h : readFrom? (piece :: layout) parts text = some result) :
    ∃ next rest, piece.take? parts text = some (next, rest) ∧
      layout.readFrom? next rest = some result := by
  obtain ⟨⟨next, rest⟩, htake, hread⟩ := Option.bind_eq_some_iff.1 h
  exact ⟨next, rest, htake, hread⟩

/-- A layout without pieces takes nothing. -/
theorem Layout.eq_of_readFrom?_nil (h : readFrom? [] parts text = some result) :
    text = [] ∧ result = parts := by
  cases text with
  | nil => exact ⟨rfl, (Option.some.inj h).symm⟩
  | cons => cases h

namespace Piece

/-- A piece that takes two digits puts their number in its place. -/
theorem exists_of_take?_number {put : Nat → Parts}
    (h : ((takeNumber? 2 (trimStart text)).map fun (n, rest) => (put n, rest)) =
      some (next, rest)) :
    ∃ front n, text = front ++ rest ∧ Indented (IsNumber 2 · n) front ∧ next = put n := by
  obtain ⟨⟨n, others⟩, hnumber, heq⟩ := Option.map_eq_some_iff.1 h
  cases heq
  obtain ⟨front, htext, hfront⟩ := exists_indented_number hnumber
  exact ⟨front, n, htext, hfront, rfl⟩

theorem exists_of_take?_day (h : day.take? parts text = some (next, rest)) :
    ∃ front n, text = front ++ rest ∧ Indented (IsNumber 2 · n) front ∧
      next = { parts with day := n } :=
  exists_of_take?_number h

theorem exists_of_take?_month (h : month.take? parts text = some (next, rest)) :
    ∃ front n, text = front ++ rest ∧ Indented (IsNumber 2 · n) front ∧
      next = { parts with month := n } :=
  exists_of_take?_number h

theorem exists_of_take?_year (h : Piece.year.take? parts text = some (next, rest)) :
    ∃ front n, text = front ++ rest ∧ Indented (IsYearText · n) front ∧
      next = { parts with year := n } := by
  obtain ⟨⟨n, others⟩, hnumber, heq⟩ := Option.map_eq_some_iff.1 h
  cases heq
  obtain ⟨front, htext, hfront⟩ := exists_indented_year hnumber
  exact ⟨front, n, htext, hfront, rfl⟩

theorem eq_of_take?_fixed {c : Char} (h : (fixed c).take? parts text = some (next, rest)) :
    text = c :: rest ∧ next = parts := by
  obtain ⟨others, hfixed, heq⟩ := Option.map_eq_some_iff.1 h
  cases heq
  exact ⟨takeFixed?_eq_some_iff.1 hfixed, rfl⟩

end Piece

end Take

end Calendar

end Footage
