import Footage.Extraction
import Mathlib.Tactic.ByContra

/-!
# Excerpts

A failure quotes the start of the text that it is about, with points behind it if the text is cut.
The length is taken with all characters, but a text is cut after so many characters other than
underscores. So all of a text may be quoted and have points behind it nonetheless: this is so if the
text has as many characters as are quoted at most, or more because of its underscores.

## Main definitions

* `Excerpt.Quotes`: what may be quoted of a text.
* `Excerpt.Omits`: a character other than an underscore is not quoted.
* `Excerpt.IsTruthful`: the points stand behind what is quoted exactly if something is omitted.

## Main results

* `Excerpt.isTruthful_excerpt_iff`: the texts of which the excerpt is truthful.
* `Excerpt.excerpt_marksLength`: what each excerpt quotes, and what its points say.
-/

namespace Footage.Excerpt

/-- The characters of a text other than underscores. -/
def plain (text : List Char) : List Char :=
  text.filter (· ≠ '_')

/-- What is written for a quotation, with points behind it if it is cut. -/
def shown (quoted : List Char) (cut : Bool) : List Char :=
  quoted ++ if cut then "...".toList else []

/-- A quotation is not too long and begins where the text does. Underscores are left out if it is
cut. -/
structure Quotes (text quoted : List Char) (cut : Bool) : Prop where
  length_le : quoted.length ≤ excerptLength
  isPrefix : quoted <+: if cut then plain text else text

/-- Some character of a text, other than an underscore, is not quoted. -/
def Omits (text quoted : List Char) : Prop :=
  (plain quoted).length < (plain text).length

/-- An excerpt is a quotation that is cut exactly if it omits something. -/
def IsTruthful (text excerpt : List Char) : Prop :=
  ∃ quoted cut, excerpt = shown quoted cut ∧ Quotes text quoted cut ∧
    (cut = true ↔ Omits text quoted)

variable {text : List Char}

/-! ## Characters other than underscores -/

@[simp]
theorem plain_plain (text : List Char) : plain (plain text) = plain text := by
  simp [plain]

theorem plain_append (before after : List Char) :
    plain (before ++ after) = plain before ++ plain after :=
  List.filter_append ..

theorem length_plain_le (text : List Char) : (plain text).length ≤ text.length :=
  List.length_filter_le ..

/-- What is left of the start of a text starts what is left of the text. -/
theorem plain_isPrefix {quoted : List Char} (h : quoted <+: text) :
    plain quoted <+: plain text := by
  obtain ⟨rest, rfl⟩ := h
  rw [plain_append]
  exact List.prefix_append _ _

/-- Leaving out underscores leaves the start of a text without them as it is. -/
theorem plain_take (n : Nat) (text : List Char) :
    plain ((plain text).take n) = (plain text).take n := by
  unfold plain
  refine List.filter_eq_self.2 fun c hc => ?_
  exact (List.mem_filter.1 (List.mem_of_mem_take hc)).2

/-! ## Short texts and long ones -/

/-- A short text is quoted as it is. -/
theorem toList_excerpt_of_lt {text : String} (h : text.toList.length < excerptLength) :
    (excerpt text).toList = shown text.toList false := by
  rw [excerpt, if_pos h]
  simp [shown]

/-- A long text is cut, however many underscores it has. -/
theorem toList_excerpt_of_le {text : String} (h : excerptLength ≤ text.toList.length) :
    (excerpt text).toList = shown ((plain text.toList).take excerptLength) true := by
  rw [excerpt, if_neg (Nat.not_lt.2 h), String.toList_ofList]
  rfl

theorem quotes_self (h : text.length < excerptLength) : Quotes text text false :=
  ⟨Nat.le_of_lt h, List.prefix_rfl⟩

theorem quotes_take (text : List Char) :
    Quotes text ((plain text).take excerptLength) true :=
  ⟨List.length_take_le _ _, List.take_prefix _ _⟩

/-- A whole text omits nothing. -/
theorem not_omits_self (text : List Char) : ¬Omits text text :=
  Nat.lt_irrefl _

/-- A cut text omits something if there are more characters than are quoted. -/
theorem omits_take_iff :
    Omits text ((plain text).take excerptLength) ↔ excerptLength < (plain text).length := by
  rw [Omits, plain_take, List.length_take]
  omega

/-- Points behind all the characters of a text are not truthful, whichever of them are taken for a
quotation. -/
theorem not_isTruthful_shown (text : List Char) :
    ¬IsTruthful text (shown (plain text) true) := by
  rintro ⟨quoted, cut, hshown, hquotes, hcut⟩
  cases cut with
  | true =>
    -- The quotation is all of the text.
    obtain rfl : plain text = quoted := List.append_cancel_right hshown
    have homits := hcut.1 rfl
    rw [Omits, plain_plain] at homits
    exact Nat.lt_irrefl _ homits
  | false =>
    -- The points would have to be quoted, too.
    obtain rfl : plain text ++ "...".toList = quoted := by simpa [shown] using hshown
    have hlength := (plain_isPrefix hquotes.isPrefix).length_le
    rw [plain_append, plain_plain, List.length_append] at hlength
    have hpoints : (plain "...".toList).length = 3 := by decide
    simp only [Bool.false_eq_true, if_false] at hlength
    omega

/-- An excerpt is truthful if its text is short, or if it has more characters than are quoted at
most, not counting underscores. -/
theorem isTruthful_excerpt_iff (text : String) :
    IsTruthful text.toList (excerpt text).toList ↔
      text.toList.length < excerptLength ∨ excerptLength < (plain text.toList).length := by
  constructor
  · intro h
    by_contra hnot
    obtain ⟨hlong, hplain⟩ := not_or.1 hnot
    rw [Nat.not_lt] at hlong hplain
    rw [toList_excerpt_of_le hlong, List.take_of_length_le hplain] at h
    exact not_isTruthful_shown _ h
  · rintro (hshort | hplain)
    · refine ⟨_, false, toList_excerpt_of_lt hshort, quotes_self hshort, ?_⟩
      simp [not_omits_self]
    · have hlong : excerptLength ≤ text.toList.length :=
        Nat.le_trans (Nat.le_of_lt hplain) (length_plain_le _)
      refine ⟨_, true, toList_excerpt_of_le hlong, quotes_take _, ?_⟩
      simp [omits_take_iff, hplain]

/-! ## Excerpts -/

/-- What the excerpt of a text quotes, and what the points behind it say. -/
structure MarksLength (text : String) : Prop where
  /-- A text that is not short is cut. It is quoted up to the length of an excerpt, so that
  characters are omitted if there are more of them. -/
  quotes : ∃ quoted cut, (excerpt text).toList = shown quoted cut ∧
    Quotes text.toList quoted cut ∧
    (cut = true ↔ excerptLength ≤ text.toList.length) ∧
    (quoted = if cut then (plain text.toList).take excerptLength else text.toList) ∧
    (Omits text.toList quoted ↔ excerptLength < (plain text.toList).length)
  /-- The points say that something is omitted unless the text is not short but its characters other
  than underscores can all be quoted. -/
  isTruthful_iff : IsTruthful text.toList (excerpt text).toList ↔
    text.toList.length < excerptLength ∨ excerptLength < (plain text.toList).length

/-- The points behind an excerpt tell that the text has a certain length. -/
theorem excerpt_marksLength (text : String) : MarksLength text where
  quotes := by
    rcases Nat.lt_or_ge text.toList.length excerptLength with hshort | hlong
    · have hplain := length_plain_le text.toList
      refine ⟨_, false, toList_excerpt_of_lt hshort, quotes_self hshort, ?_, rfl, ?_⟩
      · simpa using hshort
      · refine iff_of_false (not_omits_self _) ?_
        omega
    · refine ⟨_, true, toList_excerpt_of_le hlong, quotes_take _, ?_, rfl, omits_take_iff⟩
      simp [hlong]
  isTruthful_iff := isTruthful_excerpt_iff text

/-- A text of just as many characters as are quoted at most. -/
def fullText : String := String.ofList (List.replicate excerptLength 'x')

/-- All of it is quoted, and nonetheless there are points behind it. -/
theorem fullText_not_isTruthful :
    (excerpt fullText).toList = fullText.toList ++ "...".toList ∧
      ¬IsTruthful fullText.toList (excerpt fullText).toList := by
  have hlength : fullText.toList.length = excerptLength := by
    rw [fullText, String.toList_ofList, List.length_replicate]
  have hplain : plain fullText.toList = fullText.toList := by
    rw [fullText, String.toList_ofList]
    simp [plain]
  constructor
  · rw [toList_excerpt_of_le (Nat.le_of_eq hlength.symm), hplain,
      List.take_of_length_le (Nat.le_of_eq hlength)]
    rfl
  · rw [isTruthful_excerpt_iff, hplain, hlength]
    omega

end Footage.Excerpt
