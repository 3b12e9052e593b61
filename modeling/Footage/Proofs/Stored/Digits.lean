import Footage.Text.Decimal
import Mathlib.Algebra.Ring.Nat
import Mathlib.Data.List.Basic

/-!
# Digits

Reading the digits of a written number gives the number, and a reader finds the end of the digits
where no digit follows.

## Main definitions

* `Text.Denotes`: digits that denote a number.
* `Text.IsUnsigned`: a number without a minus sign.

## Main results

* `Text.takeWhile_digits_append`: the digits at the start of a text.
* `Text.digitsValue_decimal` and `Text.digitsValue_padded`: written numbers are read back.
* `Text.digitsValue_append` and `Text.digitsValue_lt`: the value of digits by their places.
* `Text.head?_decimal_ne_zero`: written numbers have no leading zeros.
* `Text.length_padded` and `Text.eq_padded_of_length`: numbers padded to a width.
* `Text.denotes_iff_exists_zeros`: a number is written in one way, apart from zeros on the left.
* `Text.readDigits?_eq_some_iff` and `Text.readUnsigned?_eq_some_iff`: what is read as a number.
-/

namespace Footage.Text

/-- The code points of the digits. -/
theorem toNat_of_isDigit {c : Char} (h : c.isDigit = true) : 48 ≤ c.toNat ∧ c.toNat ≤ 57 := by
  simpa [Char.isDigit, UInt32.le_iff_toNat_le] using h

/-- No digit stands at the start of a text. -/
def NoDigit (text : List Char) : Prop :=
  ∀ c ∈ text.head?, c.isDigit = false

theorem noDigit_nil : NoDigit [] := by
  rintro c hc
  cases hc

theorem noDigit_cons {c : Char} (h : c.isDigit = false) (rest : List Char) :
    NoDigit (c :: rest) := by
  rintro d hd
  cases hd
  exact h

/-- The digits at the start of a text end where no digit follows. -/
theorem takeWhile_digits_append {digits rest : List Char}
    (hdigits : ∀ c ∈ digits, c.isDigit = true) (hrest : NoDigit rest) :
    (digits ++ rest).takeWhile Char.isDigit = digits := by
  rw [List.takeWhile_append_of_pos hdigits]
  cases rest with
  | nil => simp
  | cons c rest =>
    have hc : c.isDigit = false := hrest c rfl
    simp [hc]

/-- What is left behind the digits begins with what follows them. -/
theorem dropWhile_digits_append {digits rest : List Char}
    (hdigits : ∀ c ∈ digits, c.isDigit = true) (hrest : NoDigit rest) :
    (digits ++ rest).dropWhile Char.isDigit = rest := by
  rw [List.dropWhile_append_of_pos hdigits]
  cases rest with
  | nil => rfl
  | cons c rest =>
    have hc : c.isDigit = false := hrest c rfl
    simp [hc]

/-- What is read off the digits of a number is the number. -/
theorem digitsValue_decimal (n : Nat) : digitsValue (decimal n) = n :=
  Nat.ofDigitChars_ten_toDigits

theorem isDigit_of_mem_decimal {n : Nat} {c : Char} (h : c ∈ decimal n) : c.isDigit = true :=
  Nat.isDigit_of_mem_toDigits (by decide) (by decide) h

theorem decimal_ne_nil (n : Nat) : decimal n ≠ [] :=
  Nat.toDigits_ne_nil

/-- A run of digits begins with a digit. -/
theorem exists_digit_cons {digits : List Char} (hne : digits ≠ [])
    (hdigits : ∀ c ∈ digits, c.isDigit = true) :
    ∃ c rest, digits = c :: rest ∧ c.isDigit = true := by
  cases digits with
  | nil => exact absurd rfl hne
  | cons c rest => exact ⟨c, rest, rfl, hdigits c List.mem_cons_self⟩

theorem exists_decimal_eq_cons (n : Nat) :
    ∃ c rest, decimal n = c :: rest ∧ c.isDigit = true :=
  exists_digit_cons (decimal_ne_nil n) fun _ => isDigit_of_mem_decimal

/-- The digits of a number that is not zero do not begin with a zero. -/
theorem head?_decimal_ne_zero {n : Nat} (h : 0 < n) : (decimal n).head? ≠ some '0' := by
  -- The first digit is the one that is left after all divisions by ten.
  induction n using Nat.strongRecOn with
  | ind n ih =>
    rcases Nat.lt_or_ge n 10 with hsmall | hlarge
    · rw [decimal, Nat.toDigits_of_lt_base hsmall]
      have hne : n ≠ 0 := by omega
      simpa [Nat.digitChar_eq_zero] using hne
    · have hhead := ih (n / 10) (by omega) (by omega)
      rw [decimal, Nat.toDigits_of_base_le (by decide) hlarge]
      rw [List.head?_append_of_ne_nil _ Nat.toDigits_ne_nil]
      exact hhead

/-- Of more than one digit, the first is no zero. -/
theorem not_leading_zero (n : Nat) :
    ¬((decimal n).length > 1 ∧ (decimal n).head? = some '0') := by
  rintro ⟨hlength, hhead⟩
  rcases Nat.eq_zero_or_pos n with rfl | hn
  · rw [decimal, Nat.toDigits_zero] at hlength
    simp at hlength
  · exact head?_decimal_ne_zero hn hhead

section Value

variable {digits : List Char}

/-- Digits that follow move those before them to higher places. -/
theorem digitsValue_append (first rest : List Char) :
    digitsValue (first ++ rest) = 10 ^ rest.length * digitsValue first + digitsValue rest := by
  rw [digitsValue, Nat.ofDigitChars_append, Nat.ofDigitChars_eq_ofDigitChars_zero]
  rfl

theorem digitsValue_cons (c : Char) (rest : List Char) :
    digitsValue (c :: rest) = 10 ^ rest.length * (c.toNat - 48) + digitsValue rest := by
  have hvalue : digitsValue [c] = c.toNat - 48 := by
    rw [digitsValue, Nat.ofDigitChars_cons, Nat.ofDigitChars_nil, Nat.mul_zero, Nat.zero_add]
    rfl
  rw [← List.singleton_append, digitsValue_append, hvalue]

/-- Zeros on the left do not change what is read. -/
theorem digitsValue_zeros_append (zeros : Nat) (digits : List Char) :
    digitsValue (List.replicate zeros '0' ++ digits) = digitsValue digits := by
  rw [digitsValue, Nat.ofDigitChars_append, Nat.ofDigitChars_replicate_zero, Nat.mul_zero]
  rfl

/-- The number of its digits bounds a number. -/
theorem digitsValue_lt (h : ∀ c ∈ digits, c.isDigit = true) :
    digitsValue digits < 10 ^ digits.length := by
  induction digits with
  | nil => decide
  | cons c rest ih =>
    obtain ⟨hc, hrest⟩ := List.forall_mem_cons.1 h
    have hhigh := (toNat_of_isDigit hc).2
    have hplace : 10 ^ rest.length * (c.toNat - 48) ≤ 10 ^ rest.length * 9 :=
      Nat.mul_le_mul_left _ (by omega)
    have hrest := ih hrest
    rw [digitsValue_cons, List.length_cons, Nat.pow_succ]
    omega

/-- Only zeros denote zero. -/
theorem digitsValue_eq_zero_iff (h : ∀ c ∈ digits, c.isDigit = true) :
    digitsValue digits = 0 ↔ ∀ c ∈ digits, c = '0' := by
  induction digits with
  | nil => simp [digitsValue]
  | cons c rest ih =>
    obtain ⟨hc, hrest⟩ := List.forall_mem_cons.1 h
    have hlow := (toNat_of_isDigit hc).1
    have hpow : 10 ^ rest.length ≠ 0 := Nat.ne_zero_of_lt (Nat.pow_pos (show 0 < 10 by decide))
    have hzero : c.toNat - 48 = 0 ↔ c = '0' := by
      rw [← Char.toNat_inj]
      change _ ↔ c.toNat = 48
      omega
    rw [digitsValue_cons, Nat.add_eq_zero_iff, Nat.mul_eq_zero, or_iff_right hpow, hzero,
      ih hrest, List.forall_mem_cons]

end Value

section Padded

variable {width n : Nat}

theorem padded_eq (width n : Nat) :
    padded width n = List.replicate (width - (decimal n).length) '0' ++ decimal n := rfl

theorem isDigit_of_mem_padded {c : Char} (h : c ∈ padded width n) : c.isDigit = true := by
  rw [padded_eq, List.mem_append, List.mem_replicate] at h
  rcases h with ⟨-, rfl⟩ | h
  · rfl
  · exact isDigit_of_mem_decimal h

theorem padded_ne_nil (width n : Nat) : padded width n ≠ [] := by
  simp [padded_eq, decimal_ne_nil]

theorem digitsValue_padded (width n : Nat) : digitsValue (padded width n) = n := by
  rw [padded_eq, digitsValue_zeros_append, digitsValue_decimal]

/-- A number that fits has the width that it is padded to. -/
theorem length_padded (hwidth : 0 < width) (h : n < 10 ^ width) :
    (padded width n).length = width := by
  have hlength : (decimal n).length ≤ width :=
    (Nat.length_toDigits_le_iff (by decide) hwidth).2 h
  rw [padded_eq, List.length_append, List.length_replicate]
  omega

/-- Digits are determined by how many they are and what they denote. -/
theorem eq_of_digitsValue_eq {a b : List Char} (ha : ∀ c ∈ a, c.isDigit = true)
    (hb : ∀ c ∈ b, c.isDigit = true) (hlength : a.length = b.length)
    (h : digitsValue a = digitsValue b) : a = b := by
  induction a generalizing b with
  | nil => exact (List.length_eq_zero_iff.1 hlength.symm).symm
  | cons c rest ih =>
    obtain ⟨d, others, rfl⟩ : ∃ d others, b = d :: others :=
      List.exists_cons_of_length_pos (by rw [← hlength]; exact Nat.succ_pos _)
    obtain ⟨hc, hrest⟩ := List.forall_mem_cons.1 ha
    obtain ⟨hd, hothers⟩ := List.forall_mem_cons.1 hb
    have hlength' : rest.length = others.length := Nat.succ.inj hlength
    -- The rest of the digits is smaller than one place of the first.
    have hlow := digitsValue_lt hrest
    have hlow' := digitsValue_lt hothers
    rw [digitsValue_cons, digitsValue_cons, ← hlength'] at h
    rw [← hlength'] at hlow'
    have hpow : 0 < 10 ^ rest.length := Nat.pow_pos (by decide)
    have hfirst : c.toNat - 48 = d.toNat - 48 := by
      have hdiv := congrArg (· / 10 ^ rest.length) h
      rwa [Nat.mul_add_div hpow, Nat.mul_add_div hpow, Nat.div_eq_of_lt hlow,
        Nat.div_eq_of_lt hlow', Nat.add_zero, Nat.add_zero] at hdiv
    have hcd : c = d := by
      have hc' := (toNat_of_isDigit hc).1
      have hd' := (toNat_of_isDigit hd).1
      exact Char.toNat_inj.1 (by omega)
    rw [hfirst] at h
    rw [hcd, ih hrest hothers hlength' (by omega)]

/-- Digits of a known number are the number in this width. -/
theorem eq_padded_of_length {digits : List Char} {width : Nat} (hwidth : 0 < width)
    (hdigits : ∀ c ∈ digits, c.isDigit = true) (hlength : digits.length = width) :
    digits = padded width (digitsValue digits) := by
  have hlt := digitsValue_lt hdigits
  rw [hlength] at hlt
  refine eq_of_digitsValue_eq hdigits (fun c hc => isDigit_of_mem_padded hc) ?_ ?_
  · rw [length_padded hwidth hlt, hlength]
  · rw [digitsValue_padded]

end Padded

/-! ## Readers of numbers -/

section Readers

variable {limit n : Nat} {digits text : List Char}

/-- Digits, at least one, with the number that they denote. -/
structure Denotes (digits : List Char) (n : Nat) : Prop where
  ne_nil : digits ≠ []
  isDigit : ∀ c ∈ digits, c.isDigit = true
  value : digitsValue digits = n

theorem denotes_decimal (n : Nat) : Denotes (decimal n) n where
  ne_nil := decimal_ne_nil n
  isDigit _ := isDigit_of_mem_decimal
  value := digitsValue_decimal n

/-- A number is written in one way, apart from zeros on the left. -/
theorem denotes_iff_exists_zeros :
    Denotes digits n ↔ ∃ zeros, digits = List.replicate zeros '0' ++ decimal n := by
  constructor
  · rintro ⟨hne, hdigits, rfl⟩
    exact ⟨_, eq_padded_of_length (List.length_pos_iff.2 hne) hdigits rfl⟩
  · rintro ⟨zeros, rfl⟩
    refine ⟨by simp [decimal_ne_nil], fun c hc => ?_, ?_⟩
    · rcases List.mem_append.1 hc with hzero | hdecimal
      · rw [List.eq_of_mem_replicate hzero]
        rfl
      · exact isDigit_of_mem_decimal hdecimal
    · rw [digitsValue_zeros_append, digitsValue_decimal]

/-- A sign is no digit. -/
theorem not_denotes_plus (digits : List Char) (n : Nat) : ¬Denotes ('+' :: digits) n := by
  intro h
  exact absurd (h.isDigit '+' List.mem_cons_self) (by decide)

theorem readDigits?_eq_some_iff : readDigits? text = some n ↔ Denotes text n := by
  rw [readDigits?, Option.ite_none_right_eq_some, Bool.and_eq_true, List.all_eq_true,
    Option.some_inj]
  constructor
  · rintro ⟨⟨hne, hdigits⟩, hvalue⟩
    exact ⟨by simpa using hne, hdigits, hvalue⟩
  · rintro ⟨hne, hdigits, hvalue⟩
    exact ⟨⟨by simpa using hne, hdigits⟩, hvalue⟩

/-- A number without a minus sign. -/
inductive IsUnsigned : List Char → Nat → Prop
  | plain {digits : List Char} {n : Nat} (hdigits : Denotes digits n) : IsUnsigned digits n
  | plus {digits : List Char} {n : Nat} (hdigits : Denotes digits n) : IsUnsigned ('+' :: digits) n

/-- A number without a minus sign is read if it lies below the limit. -/
theorem readUnsigned?_eq_some_iff :
    readUnsigned? limit text = some n ↔ IsUnsigned text n ∧ n < limit := by
  have hread : ∀ digits : List Char,
      ((readDigits? digits).bind fun n => if n < limit then some n else none) = some n ↔
        Denotes digits n ∧ n < limit := by
    intro digits
    simp only [Option.bind_eq_some_iff, Option.ite_none_right_eq_some, Option.some_inj,
      readDigits?_eq_some_iff]
    constructor
    · rintro ⟨_, hdigits, hlt, rfl⟩
      exact ⟨hdigits, hlt⟩
    · rintro ⟨hdigits, hlt⟩
      exact ⟨n, hdigits, hlt, rfl⟩
  -- A plus sign is taken off, and without one the text is read as it stands.
  unfold readUnsigned?
  split
  next rest =>
    refine (hread rest).trans (and_congr_left' ⟨.plus, fun h => ?_⟩)
    cases h with
    | plain hdigits => exact absurd hdigits (not_denotes_plus rest n)
    | plus hdigits => exact hdigits
  next hplus =>
    refine (hread text).trans (and_congr_left' ⟨.plain, fun h => ?_⟩)
    cases h with
    | plain hdigits => exact hdigits
    | plus => exact absurd rfl (hplus _)

end Readers

end Footage.Text
