import Footage.Text.Blank
import Mathlib.Tactic.SplitIfs

/-!
# Words

The blanks of a text keep its words apart, so that a text that is cut at a blank has the words of
its two sides. Words with single spaces between them are told apart again, and thus a text keeps its
words when it is collapsed.

## Main definitions

* `Text.IsWord`: characters that are no blanks, at least one.

## Main results

* `Text.words_append_cons`: a blank keeps the words on its two sides apart.
* `Text.words_intercalate`: words with spaces between them are read back.
* `Text.words_collapse`: a collapsed text has the words of the text.
-/

namespace Footage.Text

variable {c : Char} {text word : List Char}

/-- Characters that are no blanks, at least one. -/
structure IsWord (word : List Char) : Prop where
  ne_nil : word ≠ []
  isBlank : ∀ c ∈ word, isBlank c = false

/-- No piece between blanks has a blank in it. -/
theorem isBlank_of_mem_splitOnP (text : List Char) :
    ∀ piece ∈ text.splitOnP isBlank, ∀ c ∈ piece, isBlank c = false := by
  induction text with
  | nil => simp [List.splitOnP_nil]
  | cons c text ih =>
    rw [List.splitOnP_cons_eq_if_modifyHead]
    split_ifs with hc
    · exact List.forall_mem_cons.2 ⟨by simp, ih⟩
    · -- The character goes in front of the first piece of the rest.
      obtain ⟨first, others, hsplit⟩ :=
        List.exists_cons_of_ne_nil (List.splitOnP_ne_nil isBlank text)
      rw [hsplit] at ih ⊢
      obtain ⟨hfirst, hothers⟩ := List.forall_mem_cons.1 ih
      have hjoined : ∀ d ∈ c :: first, isBlank d = false :=
        List.forall_mem_cons.2 ⟨by simpa using hc, hfirst⟩
      exact List.forall_mem_cons.2 ⟨hjoined, hothers⟩

theorem isWord_of_mem_words (h : word ∈ words text) : IsWord word := by
  obtain ⟨hpiece, hne⟩ := List.mem_filter.1 h
  exact ⟨by simpa using hne, isBlank_of_mem_splitOnP text word hpiece⟩

@[simp]
theorem words_nil : words [] = [] := by
  simp [words, List.splitOnP_nil]

/-- A blank keeps the words on its two sides apart. -/
theorem words_append_cons (hc : isBlank c = true) (before after : List Char) :
    words (before ++ c :: after) = words before ++ words after := by
  rw [words, List.splitOnP_append_cons before after hc, List.filter_append, words, words]

/-- A word alone is the only one. -/
theorem IsWord.words_eq (h : IsWord word) : words word = [word] := by
  rw [words, List.splitOnP_eq_singleton h.isBlank]
  simp [h.ne_nil]

/-- Words with spaces between them are read back. -/
theorem words_intercalate {list : List (List Char)} (h : ∀ word ∈ list, IsWord word) :
    words ([' '].intercalate list) = list := by
  induction list with
  | nil => exact words_nil
  | cons word list ih =>
    obtain ⟨hword, hlist⟩ := List.forall_mem_cons.1 h
    cases list with
    | nil => rw [List.intercalate_singleton, hword.words_eq]
    | cons next list =>
      -- The space behind the first word is where the text is cut.
      rw [List.intercalate_cons_cons, List.append_assoc, List.singleton_append,
        words_append_cons rfl, hword.words_eq, ih hlist, List.singleton_append]

/-- A collapsed text has the words of the text. -/
theorem words_collapse (text : List Char) : words (collapse text) = words text :=
  words_intercalate fun _ => isWord_of_mem_words

end Footage.Text
