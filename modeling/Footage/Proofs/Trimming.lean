import Footage.Proofs.Stored.Digits
import Footage.Text.Blank
import Footage.Text.DecimalDigit
import Footage.Text.WordChar
import Mathlib.Data.List.TakeWhile

/-!
# Trimming

Trimming takes blanks off the two ends of a text and nothing else. Digits and the characters of
words are no blanks, so that a text that begins and ends with them is left as it is.

## Main results

* `Text.isBlank_of_isWordChar`: the characters of words are no blanks.
* `Text.trim_append`: what begins and ends with other characters than blanks stays.
* `Text.trim_pad`: blanks around a text do not matter.
* `Text.exists_eq_append_trim`: a text is its trimmed form with blanks around it.
* `Text.filter_trim`: trimming does not matter where blanks are left out anyway.
* `Text.map_trim_splitOn_trim`: trimming a text does not change its trimmed parts.
-/

namespace Footage.Text

variable {c : Char} {start text : List Char}

/-! ## Kinds of characters -/

/-- The code points of the blanks. -/
def blankCodes : List Nat :=
  [9, 10, 11, 12, 13, 0x20, 0x85, 0xA0, 0x1680, 0x2000, 0x2001, 0x2002, 0x2003, 0x2004, 0x2005,
    0x2006, 0x2007, 0x2008, 0x2009, 0x200A, 0x2028, 0x2029, 0x202F, 0x205F, 0x3000]

theorem mem_blankCodes_of_isBlank (h : isBlank c = true) : c.toNat ∈ blankCodes := by
  simp only [isBlank, Bool.or_eq_true, Bool.and_eq_true, decide_eq_true_eq, beq_iff_eq] at h
  simp only [blankCodes, List.mem_cons, List.not_mem_nil, or_false]
  omega

/-- Ranges that cover the code of no blank have no blanks. -/
theorem isBlank_of_covers {ranges : CodeRanges} (hcodes : ∀ n ∈ blankCodes, ranges.covers n = false)
    (h : ranges.covers c.toNat = true) : isBlank c = false := by
  by_contra hblank
  rw [Bool.not_eq_false] at hblank
  rw [hcodes _ (mem_blankCodes_of_isBlank hblank)] at h
  cases h

/-- The characters of words are no blanks. -/
theorem isBlank_of_isWordChar (h : isWordChar c = true) : isBlank c = false :=
  isBlank_of_covers (by decide +kernel) h

/-- The decimal digits of all scripts are no blanks. -/
theorem isBlank_of_isDecimalDigit (h : isDecimalDigit c = true) : isBlank c = false :=
  isBlank_of_covers (by decide +kernel) h

theorem isBlank_of_isDigit (h : c.isDigit = true) : isBlank c = false := by
  have hrange := toNat_of_isDigit h
  simp only [isBlank, Bool.or_eq_false_iff, Bool.and_eq_false_imp, decide_eq_true_eq,
    decide_eq_false_iff_not, beq_eq_false_iff_ne]
  omega

/-- The ASCII digits are decimal digits. -/
theorem isDecimalDigit_of_isDigit (h : c.isDigit = true) : isDecimalDigit c = true := by
  obtain ⟨hlow, hhigh⟩ := toNat_of_isDigit h
  rw [isDecimalDigit, decimalDigitRanges, CodeRanges.covers, if_neg (by omega), Bool.or_eq_true]
  exact .inl (decide_eq_true hhigh)

/-! ## The ends of a text -/

/-- What is no blank stays at the start of a text. -/
theorem trimStart_cons (h : isBlank c = false) (rest : List Char) :
    trimStart (c :: rest) = c :: rest := by
  simp [trimStart, h]

/-- What ends with another character than a blank stays at the start of a text. -/
theorem trimEnd_append (hlast : ∀ c ∈ start.getLast?, isBlank c = false) (rest : List Char) :
    trimEnd (start ++ rest) = start ++ trimEnd rest := by
  have hstart : start.reverse.dropWhile isBlank = start.reverse := by
    rw [← List.head?_reverse] at hlast
    cases hreverse : start.reverse with
    | nil => rfl
    | cons c others =>
      have hc : isBlank c = false := hlast c (by rw [hreverse]; rfl)
      simp [hc]
  rw [trimEnd, List.reverse_append, List.dropWhile_append, trimEnd, hstart]
  split_ifs with hrest
  · rw [List.isEmpty_iff.1 hrest]
    simp
  · simp

/-- What begins with another character than a blank stays at the start of a text. -/
theorem trimStart_append (hne : start ≠ []) (hfirst : ∀ c ∈ start.head?, isBlank c = false)
    (rest : List Char) : trimStart (start ++ rest) = start ++ rest := by
  obtain ⟨c, others, rfl⟩ := List.exists_cons_of_ne_nil hne
  exact trimStart_cons (hfirst c rfl) _

/-- What begins and ends with other characters than blanks stays at the start of a text. -/
theorem trim_append (hne : start ≠ []) (hfirst : ∀ c ∈ start.head?, isBlank c = false)
    (hlast : ∀ c ∈ start.getLast?, isBlank c = false) (rest : List Char) :
    trim (start ++ rest) = start ++ trimEnd rest := by
  rw [trim, trimStart_append hne hfirst, trimEnd_append hlast]

/-- A text that begins and ends with other characters than blanks is left as it is. -/
theorem trim_eq_self (hne : text ≠ []) (hfirst : ∀ c ∈ text.head?, isBlank c = false)
    (hlast : ∀ c ∈ text.getLast?, isBlank c = false) : trim text = text := by
  simpa [trimEnd] using trim_append hne hfirst hlast []

/-- Nothing but blanks. -/
def IsBlankRun (text : List Char) : Prop :=
  ∀ c ∈ text, isBlank c = true

theorem isBlankRun_nil : IsBlankRun [] :=
  List.forall_mem_nil _

/-- Blanks before a text are trimmed off its start. -/
theorem trimStart_blanks (hstart : IsBlankRun start) (text : List Char) :
    trimStart (start ++ text) = trimStart text :=
  List.dropWhile_append_of_pos hstart

/-- Blanks after a text are trimmed off its end. -/
theorem trimEnd_blanks {after : List Char} (hafter : IsBlankRun after) (text : List Char) :
    trimEnd (text ++ after) = trimEnd text := by
  have hreverse : IsBlankRun after.reverse := fun c hc => hafter c (List.mem_reverse.1 hc)
  rw [trimEnd, List.reverse_append, List.dropWhile_append_of_pos hreverse, trimEnd]

/-- Blanks around a text are trimmed off with those at its own ends. -/
theorem trim_pad {after : List Char} (hstart : IsBlankRun start) (hafter : IsBlankRun after)
    (text : List Char) : trim (start ++ text ++ after) = trim text := by
  have happend : trimStart (text ++ after) =
      if (trimStart text).isEmpty then trimStart after else trimStart text ++ after :=
    List.dropWhile_append
  rw [trim, List.append_assoc, trimStart_blanks hstart, trim, happend]
  split_ifs with hempty
  · -- A text of blanks alone is trimmed to nothing, together with the blanks after it.
    have hnil : trimStart after = [] := by simpa [trimStart] using trimStart_blanks hafter []
    rw [hnil, List.isEmpty_iff.1 hempty]
  · exact trimEnd_blanks hafter _

/-- There are no blanks around digits. -/
theorem trim_decimal (n : Nat) : trim (decimal n) = decimal n := by
  refine trim_eq_self (decimal_ne_nil n) (fun c hc => ?_) (fun c hc => ?_)
  · exact isBlank_of_isDigit (isDigit_of_mem_decimal (List.mem_of_mem_head? hc))
  · exact isBlank_of_isDigit (isDigit_of_mem_decimal (List.mem_of_getLast? hc))

/-- A text is what is left of it when it is trimmed, with blanks around it. -/
theorem exists_eq_append_trim (text : List Char) :
    ∃ before after, IsBlankRun before ∧ IsBlankRun after ∧ text = before ++ trim text ++ after := by
  refine ⟨text.takeWhile isBlank, ((trimStart text).reverse.takeWhile isBlank).reverse,
    fun c hc => List.mem_takeWhile_imp hc, fun c hc => ?_, ?_⟩
  · exact List.mem_takeWhile_imp (List.mem_reverse.1 hc)
  · -- The blanks at the end are those of what is left when the start is trimmed.
    have hend : trim text ++ ((trimStart text).reverse.takeWhile isBlank).reverse =
        trimStart text := by
      rw [trim, trimEnd, ← List.reverse_append, List.takeWhile_append_dropWhile,
        List.reverse_reverse]
    rw [List.append_assoc, hend, trimStart, List.takeWhile_append_dropWhile]

/-- Trimming does not matter where blanks are left out anyway. -/
theorem filter_trim {p : Char → Bool} (hp : ∀ c, isBlank c = true → p c = false)
    (text : List Char) : (trim text).filter p = text.filter p := by
  have hdrop : ∀ text : List Char, (text.dropWhile isBlank).filter p = text.filter p := by
    intro text
    induction text with
    | nil => rfl
    | cons c text ih =>
      cases hc : isBlank c with
      | true => rw [List.dropWhile_cons_of_pos hc, List.filter_cons_of_neg (by simp [hp c hc]), ih]
      | false => rw [List.dropWhile_cons_of_neg (by simp [hc])]
  rw [trim, trimEnd, List.filter_reverse, hdrop, List.filter_reverse, List.reverse_reverse,
    trimStart, hdrop]

/-! ## Parts of a text -/

section Parts

variable {sep : Char}

/-- What stands before a text belongs to its first part. -/
theorem splitOn_append_left (hstart : sep ∉ start) (text : List Char) :
    (start ++ text).splitOn sep = (text.splitOn sep).modifyHead (start ++ ·) := by
  induction start with
  | nil => cases h : text.splitOn sep <;> simp [h]
  | cons c start ih =>
    -- The character does not cut the text, and so goes in front of the first part.
    obtain ⟨hc, hstart⟩ : sep ≠ c ∧ sep ∉ start := by simpa using hstart
    rw [List.cons_append, List.splitOn_cons_eq_if_modifyHead, if_neg (by simpa using hc.symm),
      ih hstart, List.modifyHead_modifyHead]
    rfl

/-- What stands after a text belongs to its last part. -/
theorem splitOn_append_right {after : List Char} (hafter : sep ∉ after) (text : List Char) :
    ∃ parts last, text.splitOn sep = parts ++ [last] ∧
      (text ++ after).splitOn sep = parts ++ [last ++ after] := by
  induction text with
  | nil => exact ⟨[], [], by simp, by simp [List.splitOn_eq_singleton hafter]⟩
  | cons c text ih =>
    obtain ⟨parts, last, htext, hlonger⟩ := ih
    rw [List.cons_append, List.splitOn_cons_eq_if_modifyHead, List.splitOn_cons_eq_if_modifyHead,
      htext, hlonger]
    split_ifs
    · exact ⟨[] :: parts, last, rfl, rfl⟩
    · -- The first part grows by the character, and may be the last one.
      cases parts with
      | nil => exact ⟨[], c :: last, rfl, rfl⟩
      | cons part parts => exact ⟨(c :: part) :: parts, last, rfl, rfl⟩

/-- Trimming a text does not change its trimmed parts. -/
theorem map_trim_splitOn_trim (hsep : isBlank sep = false) (text : List Char) :
    ((trim text).splitOn sep).map trim = (text.splitOn sep).map trim := by
  have hblanks : ∀ {run : List Char}, IsBlankRun run → sep ∉ run := by
    intro run hrun hmem
    rw [hrun sep hmem] at hsep
    cases hsep
  -- The blanks around the text belong to its first and its last part, which lose them again.
  obtain ⟨before, after, hbefore, hafter, htext⟩ := exists_eq_append_trim text
  obtain ⟨parts, last, hparts, hlonger⟩ := splitOn_append_right (hblanks hafter) (trim text)
  have hlast : trim (last ++ after) = trim last := by
    simpa using trim_pad isBlankRun_nil hafter last
  have hfirst : ∀ part, trim (before ++ part) = trim part := fun part => by
    simpa using trim_pad hbefore isBlankRun_nil part
  have hhead : ∀ parts : List (List Char),
      (parts.modifyHead (before ++ ·)).map trim = parts.map trim := by
    intro parts
    cases parts with
    | nil => rfl
    | cons part parts => rw [List.modifyHead_cons, List.map_cons, hfirst, List.map_cons]
  calc ((trim text).splitOn sep).map trim
      = (parts ++ [last ++ after]).map trim := by rw [hparts]; simp [hlast]
    _ = ((trim text ++ after).splitOn sep).map trim := by rw [hlonger]
    _ = (((trim text ++ after).splitOn sep).modifyHead (before ++ ·)).map trim := (hhead _).symm
    _ = (text.splitOn sep).map trim := by
        rw [← splitOn_append_left (hblanks hbefore), ← List.append_assoc, ← htext]

end Parts

end Footage.Text
