import Footage.Fixture
import Footage.Proofs.Trimming
import Mathlib.Data.Option.Basic

/-!
# Texts that name fixtures

A text that is a number of up to three ASCII digits, or a word and such a number, names a matchday.
Of any other text only the normal form matters, in which a known word or the size of a round is
found. This module states which texts are of which kind, and what is read from them.

## Main definitions

* `Fixture.IsNumeral`: digits that number a matchday.
* `Fixture.IsNumbered`: a text that is a number, alone or after a word.
* `Fixture.IsFirstNamed`: the known round of a normal form.

## Main results

* `Fixture.readTitled?_eq_some_iff`: words and numbers.
* `Fixture.namedIn?_eq_some_iff`: known rounds.
* `Fixture.read?_of_isNumbered` and `Fixture.read?_of_unnumbered`: what is read from a text.
-/

namespace Footage

open Text

/-- A word is found in a text if its characters stand next to each other there. -/
theorem Text.contains_iff_isInfix {word text : List Char} :
    contains word text = true ↔ word <:+: text := by
  induction text with
  | nil => simp [contains]
  | cons c text ih =>
    rw [contains, Bool.or_eq_true, List.isPrefixOf_iff_prefix, ih, List.infix_cons_iff]

theorem Text.mentions_iff_isInfix {text : List Char} {word : String} :
    mentions text word = true ↔ word.toList <:+: text :=
  contains_iff_isInfix

theorem Text.after?_append (start rest : List Char) : after? start (start ++ rest) = some rest := by
  induction start with
  | nil => rfl
  | cons c start ih => rw [List.cons_append, after?, if_pos rfl, ih]

theorem Text.eq_append_of_after? {start text rest : List Char} (h : after? start text = some rest) :
    text = start ++ rest := by
  induction start generalizing text with
  | nil => simpa [after?] using h
  | cons c start ih =>
    cases text with
    | nil => cases h
    | cons d text =>
      rw [after?, Option.ite_none_right_eq_some] at h
      rw [h.1, ih h.2, List.cons_append]

namespace Fixture

variable {text word digits form : List Char} {n : Nat} {fixture : Fixture}

/-! ## Numbers and words -/

/-- Digits that number a matchday: one to three, in ASCII. -/
structure IsNumeral (digits : List Char) (n : Nat) : Prop where
  ne_nil : digits ≠ []
  length_le : digits.length ≤ 3
  isDigit : ∀ c ∈ digits, c.isDigit = true
  value : digitsValue digits = n

theorem isNumeral_iff :
    IsNumeral digits n ↔ isShortNumber digits = true ∧ readDigits? digits = some n := by
  constructor
  · rintro ⟨hne, hlength, hdigits, rfl⟩
    have hall : digits.all Char.isDigit = true := List.all_eq_true.2 hdigits
    have hdecimal : ∀ c ∈ digits, isDecimalDigit c = true := fun c hc =>
      isDecimalDigit_of_isDigit (hdigits c hc)
    have hpos : 1 ≤ digits.length := List.length_pos_iff.2 hne
    simpa [isShortNumber, readDigits?, hall, hne, hlength, hpos] using hdecimal
  · rintro ⟨hshort, hread⟩
    simp only [isShortNumber, Bool.and_eq_true, decide_eq_true_eq] at hshort
    rw [readDigits?, Option.ite_none_right_eq_some, Bool.and_eq_true, List.all_eq_true] at hread
    obtain ⟨⟨hne, hdigits⟩, hvalue⟩ := hread
    exact ⟨by simpa using hne, hshort.1.2, hdigits, Option.some.inj hvalue⟩

theorem IsNumeral.lt (h : IsNumeral digits n) : n < 1000 := by
  have hvalue := digitsValue_lt h.isDigit
  rw [h.value] at hvalue
  exact Nat.lt_of_lt_of_le hvalue (Nat.pow_le_pow_right (by decide) h.length_le)

/-- Written numbers of up to three digits. -/
theorem isNumeral_decimal (h : n < 1000) : IsNumeral (decimal n) n where
  ne_nil := decimal_ne_nil n
  length_le := (Nat.length_toDigits_le_iff (by decide) (by decide)).2 h
  isDigit _ := isDigit_of_mem_decimal
  value := digitsValue_decimal n

/-- A word: at least one character, and all of them those of words. -/
structure IsWord (word : List Char) : Prop where
  ne_nil : word ≠ []
  isWordChar : ∀ c ∈ word, isWordChar c = true

theorem isWord_iff : IsWord word ↔ !word.isEmpty && word.all Text.isWordChar := by
  rw [Bool.and_eq_true, List.all_eq_true]
  exact ⟨fun h => ⟨by simpa using h.ne_nil, h.isWordChar⟩, fun h => ⟨by simpa using h.1, h.2⟩⟩

theorem IsWord.ne_space (h : IsWord word) {c : Char} (hc : c ∈ word) : c ≠ ' ' := by
  rintro rfl
  exact absurd (h.isWordChar ' ' hc) (by decide +kernel)

/-- A word ends at the first space. -/
theorem IsWord.takeWhile_append (h : IsWord word) (rest : List Char) :
    (word ++ ' ' :: rest).takeWhile (· ≠ ' ') = word := by
  rw [List.takeWhile_append_of_pos fun c hc => decide_eq_true (h.ne_space hc)]
  simp

theorem IsWord.dropWhile_append (h : IsWord word) (rest : List Char) :
    (word ++ ' ' :: rest).dropWhile (· ≠ ' ') = ' ' :: rest := by
  rw [List.dropWhile_append_of_pos fun c hc => decide_eq_true (h.ne_space hc)]
  simp

theorem isShortNumber_of_mem_space (h : ' ' ∈ text) : isShortNumber text = false := by
  rw [isShortNumber, Bool.and_eq_false_iff, List.all_eq_false]
  exact .inr ⟨' ', h, by decide⟩

/-- A word, a space and a number are read as such. -/
theorem readTitled?_eq_some_iff : readTitled? text = some fixture ↔
    ∃ word digits n, IsWord word ∧ IsNumeral digits n ∧ text = word ++ ' ' :: digits ∧
      titled word n = fixture := by
  constructor
  · intro h
    rw [readTitled?] at h
    split at h
    · -- The text is what was taken before the space and what was dropped up to it.
      rename_i digits hdrop
      rw [Option.ite_none_right_eq_some, Bool.and_eq_true] at h
      obtain ⟨⟨hword, hshort⟩, h⟩ := h
      obtain ⟨n, hread, hfixture⟩ := Option.map_eq_some_iff.1 h
      refine ⟨_, digits, n, isWord_iff.2 hword, isNumeral_iff.2 ⟨hshort, hread⟩, ?_, hfixture⟩
      rw [← hdrop, List.takeWhile_append_dropWhile]
    · cases h
  · rintro ⟨word, digits, n, hword, hdigits, rfl, rfl⟩
    obtain ⟨hshort, hread⟩ := isNumeral_iff.1 hdigits
    have hchars := isWord_iff.1 hword
    rw [readTitled?, hword.takeWhile_append, hword.dropWhile_append]
    simp [hchars, hshort, hread]

/-- A text that is a number, alone or after a word. A number alone is that of a matchday. -/
inductive IsNumbered (text : List Char) : List Char → Nat → Prop
  | alone {n : Nat} (hnumber : IsNumeral (trim text) n) : IsNumbered text "Matchday".toList n
  | titled {word digits : List Char} {n : Nat} (hword : IsWord word) (hnumber : IsNumeral digits n)
      (htext : trim text = word ++ ' ' :: digits) : IsNumbered text word n

theorem IsNumbered.lt (h : IsNumbered text word n) : n < 1000 := by
  cases h with
  | alone hnumber => exact hnumber.lt
  | titled _ hnumber => exact hnumber.lt

theorem IsNumbered.isWord (h : IsNumbered text word n) : IsWord word := by
  cases h with
  | alone => exact isWord_iff.2 (by decide +kernel)
  | titled hword => exact hword

theorem toList_title_titled (word : List Char) (n : Nat) :
    (titled word n).title.toList = word ++ ' ' :: decimal n :=
  String.toList_ofList

/-- The title of a numbered fixture ends with a digit. -/
theorem isDigit_of_mem_getLast?_titled {c : Char}
    (h : c ∈ (titled word n).title.toList.getLast?) : c.isDigit = true := by
  rw [toList_title_titled, List.getLast?_append_of_ne_nil _ (List.cons_ne_nil _ _),
    List.getLast?_cons_of_ne_nil (decimal_ne_nil n)] at h
  exact isDigit_of_mem_decimal (List.mem_of_getLast? h)

/-- No number gives a fixture the title of a known round, which does not end with a digit. -/
theorem titled_ne_of_mem_named {name : String} (h : (name, fixture) ∈ named) :
    titled word n ≠ fixture := by
  have hlast : ∀ entry ∈ named, entry.2.title.toList.getLast?.any Char.isDigit = false := by decide
  rintro rfl
  have hne : (titled word n).title.toList ≠ [] := by simp [toList_title_titled]
  have hmem := List.getLast?_eq_some_getLast hne
  have hfalse := hlast _ h
  rw [hmem, Option.any_some, isDigit_of_mem_getLast?_titled hmem] at hfalse
  cases hfalse

/-- A text that is not a number, neither alone nor after a word. -/
def Unnumbered (text : List Char) : Prop :=
  ∀ word n, ¬IsNumbered text word n

/-! ## Normal forms -/

theorem normalForm_append (first rest : List Char) :
    normalForm (first ++ rest) = normalForm first ++ normalForm rest := by
  simp [normalForm, lowercase]

theorem normalForm_trim (text : List Char) : normalForm (trim text) = normalForm text := by
  rw [normalForm, filter_trim, normalForm]
  intro c hc
  simp [hc]

/-- The normal form of decimal digits has no more characters than there are digits. -/
theorem length_normalForm_le (h : ∀ c ∈ text, isDecimalDigit c = true) :
    (normalForm text).length ≤ text.length := by
  -- No digit is the one capital letter whose small letter is written with two characters.
  have hchar : ∀ c ∈ text.filter (fun c => !isBlank c && c ≠ '-' && c ≠ '_'),
      (lowercaseChar c).length = 1 := by
    intro c hc
    have hdigit := h c (List.mem_of_mem_filter hc)
    rw [lowercaseChar, if_neg, List.length_singleton]
    intro hcode
    rw [isDecimalDigit, hcode] at hdigit
    exact absurd hdigit (by decide +kernel)
  calc (normalForm text).length
      = ((text.filter fun c => !isBlank c && c ≠ '-' && c ≠ '_').map
          fun c => (lowercaseChar c).length).sum := by
        rw [normalForm, lowercase, List.length_flatMap]
    _ = (text.filter fun c => !isBlank c && c ≠ '-' && c ≠ '_').length := by
        rw [List.map_congr_left hchar]
        simp
    _ ≤ text.length := List.length_filter_le _ _

/-- The first of the known rounds whose word occurs in a normal form. -/
def IsFirstNamed (form : List Char) (fixture : Fixture) : Prop :=
  ∃ earlier word later, named = earlier ++ (word, fixture) :: later ∧ word.toList <:+: form ∧
    ∀ other ∈ earlier, ¬other.1.toList <:+: form

/-- No word of a known round occurs in a normal form. -/
def NamesNone (form : List Char) : Prop :=
  ∀ entry ∈ named, ¬entry.1.toList <:+: form

theorem namedIn?_eq_some_iff : namedIn? form = some fixture ↔ IsFirstNamed form fixture := by
  rw [namedIn?, Option.map_eq_some_iff]
  constructor
  · rintro ⟨⟨word, fixture⟩, hfind, rfl⟩
    obtain ⟨hword, earlier, later, hnamed, hearlier⟩ := List.find?_eq_some_iff_append.1 hfind
    refine ⟨earlier, word, later, hnamed, mentions_iff_isInfix.1 hword, fun other hother => ?_⟩
    rw [← mentions_iff_isInfix]
    simpa using hearlier other hother
  · rintro ⟨earlier, word, later, hnamed, hword, hearlier⟩
    refine ⟨(word, fixture), List.find?_eq_some_iff_append.2 ?_, rfl⟩
    refine ⟨mentions_iff_isInfix.2 hword, earlier, later, hnamed, fun other hother => ?_⟩
    have hother := hearlier other hother
    rw [← mentions_iff_isInfix] at hother
    simpa using hother

theorem namedIn?_eq_none_iff : namedIn? form = none ↔ NamesNone form := by
  rw [namedIn?, Option.map_eq_none_iff, List.find?_eq_none, NamesNone]
  simp only [mentions_iff_isInfix]

/-- The words of the known rounds have at least four letters. -/
theorem namesNone_of_length_lt (h : form.length < 4) : NamesNone form := by
  have hwords : ∀ entry ∈ named, 4 ≤ entry.1.toList.length := by decide
  intro entry hentry hword
  have hlength := hwords entry hentry
  have hle := hword.length_le
  omega

/-- Up to three digits hold no word of a known round. -/
theorem namesNone_of_digits (hdigits : ∀ c ∈ trim text, isDecimalDigit c = true)
    (hlength : (trim text).length ≤ 3) : NamesNone (normalForm text) := by
  have hle := length_normalForm_le hdigits
  rw [normalForm_trim] at hle
  exact namesNone_of_length_lt (by omega)

theorem length_le_of_sizeIn? (h : sizeIn? form = some digits) : 5 ≤ form.length := by
  induction form with
  | nil => cases h
  | cons c rest ih =>
    rw [sizeIn?, Option.orElse_eq_some] at h
    obtain hstart | ⟨-, hrest⟩ := h
    · obtain ⟨others, hround, -⟩ := Option.bind_eq_some_iff.1 hstart
      rw [eq_append_of_after? hround, List.length_append]
      exact Nat.le_add_right 5 _
    · exact Nat.le_trans (ih hrest) (Nat.le_succ _)

/-! ## What is read from a text -/

/-- A number names the matchday of this number, with the word before it. -/
theorem read?_of_isNumbered (h : IsNumbered text word n) : read? text = some (titled word n) := by
  cases h with
  | alone hnumber =>
    obtain ⟨hshort, hread⟩ := isNumeral_iff.1 hnumber
    have hn : n < UInt32.size := Nat.lt_trans hnumber.lt (by decide)
    rw [read?, if_pos hshort, hread, Option.map_some, matchday, UInt32.toNat_ofNat_of_lt' hn]
  | titled hword hnumber htext =>
    have hshort : isShortNumber (trim text) = false :=
      isShortNumber_of_mem_space (by simp [htext])
    have htitled : readTitled? (trim text) = some (titled word n) :=
      readTitled?_eq_some_iff.2 ⟨word, _, n, hword, hnumber, htext, rfl⟩
    rw [read?, if_neg (by simp [hshort]), htitled]
    rfl

/-- Of any other text only the normal form matters. -/
theorem read?_of_unnumbered (h : Unnumbered text) :
    read? text = (namedIn? (normalForm text) <|> readRound? (normalForm text)) := by
  by_cases hshort : isShortNumber (trim text) = true
  · -- The digits are of another script, and too few for a word or the size of a round.
    have hread : readDigits? (trim text) = none :=
      Option.eq_none_iff_forall_ne_some.2 fun n hn =>
        h _ n (.alone (isNumeral_iff.2 ⟨hshort, hn⟩))
    simp only [isShortNumber, Bool.and_eq_true, decide_eq_true_eq, List.all_eq_true] at hshort
    have hnamed : namedIn? (normalForm text) = none :=
      namedIn?_eq_none_iff.2 (namesNone_of_digits hshort.2 hshort.1.2)
    have hsize : sizeIn? (normalForm text) = none := by
      rw [Option.eq_none_iff_forall_ne_some]
      intro digits hdigits
      have hlength := length_le_of_sizeIn? hdigits
      have hle := length_normalForm_le hshort.2
      rw [normalForm_trim] at hle
      omega
    rw [read?, if_pos (by simpa [isShortNumber] using hshort), hread, hnamed, readRound?, hsize]
    rfl
  · -- A text that is read as a word with a number is numbered, which this one is not.
    have htitled : readTitled? (trim text) = none := by
      rw [Option.eq_none_iff_forall_ne_some]
      intro fixture hfixture
      obtain ⟨word, digits, n, hword, hnumber, htext, -⟩ := readTitled?_eq_some_iff.1 hfixture
      exact h word n (.titled hword hnumber htext)
    rw [read?, if_neg hshort, htitled, normalForm_trim]
    rfl

end Fixture

end Footage
