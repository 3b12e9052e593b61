import Footage.Proofs.Words
import Mathlib.Data.List.Chain
import Mathlib.Data.List.TakeWhile

/-!
# Collapsed texts

Collapsing is a normal form for the words of a text. What comes of it has no blank at either end and
none but single spaces in between, and it is the only such text with these words. So two texts
collapse to the same exactly if they have the same words, and what stands on the two sides of a gap
may be collapsed first.

## Main definitions

* `Text.IsCollapsed`: no blank at either end, and none but single spaces in between.
* `Text.Collapses`: what collapsing makes of a text.

## Main results

* `Text.flatten_words`: the words of a text hold its characters other than blanks, in their order.
* `Text.isCollapsed_collapse` and `Text.IsCollapsed.collapse_eq`: collapsing ends in the collapsed
  texts and leaves these as they are.
* `Text.collapse_eq_collapse_iff`: the words of a text are all that is kept of it.
* `Text.collapses`: all of this together.
-/

namespace Footage.Text

variable {text word before after gap : List Char}

/-- A text has no blank at either end, and its blanks are single spaces. -/
structure IsCollapsed (text : List Char) : Prop where
  head : ∀ c ∈ text.head?, isBlank c = false
  last : ∀ c ∈ text.getLast?, isBlank c = false
  spaces : ∀ c ∈ text, isBlank c = true → c = ' '
  /-- No two blanks stand side by side. -/
  single : text.IsChain fun c d => isBlank c = true → isBlank d = false

/-! ## The words of texts -/

/-- Blanks in front of a text belong to no word. -/
theorem words_blanks_append (h : ∀ c ∈ gap, isBlank c = true) (after : List Char) :
    words (gap ++ after) = words after := by
  induction gap with
  | nil => rfl
  | cons c gap ih =>
    obtain ⟨hc, hgap⟩ := List.forall_mem_cons.1 h
    have hcut := words_append_cons hc [] (gap ++ after)
    rwa [words_nil, List.nil_append, List.nil_append, ih hgap] at hcut

/-- A gap of any width keeps the words on its two sides apart. -/
theorem words_append_gap (hne : gap ≠ []) (h : ∀ c ∈ gap, isBlank c = true)
    (before after : List Char) :
    words (before ++ gap ++ after) = words before ++ words after := by
  obtain ⟨c, gap, rfl⟩ := List.exists_cons_of_ne_nil hne
  obtain ⟨hc, hgap⟩ := List.forall_mem_cons.1 h
  -- The first blank ends the words before the gap, and the others may as well be absent.
  rw [List.append_assoc, List.cons_append, words_append_cons hc, words_blanks_append hgap]

/-- The pieces between the blanks of a text hold all its other characters. -/
theorem flatten_splitOnP (text : List Char) :
    (text.splitOnP isBlank).flatten = text.filter fun c => !isBlank c := by
  induction text with
  | nil => simp [List.splitOnP_nil]
  | cons c text ih =>
    rw [List.splitOnP_cons_eq_if_modifyHead]
    obtain ⟨first, others, hsplit⟩ :=
      List.exists_cons_of_ne_nil (List.splitOnP_ne_nil isBlank text)
    rw [hsplit] at ih ⊢
    by_cases hc : isBlank c = true
    · simpa [hc] using ih
    · simpa [hc] using ih

/-- The words of a text hold its characters other than blanks, in their order. -/
theorem flatten_words (text : List Char) :
    (words text).flatten = text.filter fun c => !isBlank c := by
  rw [← flatten_splitOnP]
  unfold words
  -- The pieces that are left out, being no words, are empty.
  induction text.splitOnP isBlank with
  | nil => rfl
  | cons piece pieces ih =>
    by_cases hpiece : piece = []
    · simpa [hpiece] using ih
    · simpa [hpiece] using ih

/-! ## Collapsed texts -/

/-- A word has no blanks at all. -/
theorem IsWord.isCollapsed (h : IsWord word) : IsCollapsed word where
  head c hc := h.isBlank c (List.mem_of_mem_head? hc)
  last c hc := h.isBlank c (List.mem_of_mem_getLast? hc)
  spaces c hc hblank := by simp [h.isBlank c hc] at hblank
  single := by
    refine List.Pairwise.isChain (List.pairwise_of_forall_mem_list fun c hc d hd _ => ?_)
    exact h.isBlank d hd

/-- A single space joins a word and a collapsed text. -/
theorem IsCollapsed.cons_word (hword : IsWord word) (h : IsCollapsed after) (hne : after ≠ []) :
    IsCollapsed (word ++ ' ' :: after) where
  head c hc := by
    rw [List.head?_append_of_ne_nil _ hword.ne_nil] at hc
    exact hword.isCollapsed.head c hc
  last c hc := by
    rw [List.getLast?_append_cons, List.getLast?_cons_of_ne_nil hne] at hc
    exact h.last c hc
  spaces c hc hblank := by
    rcases List.mem_append.1 hc with hc | hc
    · exact hword.isCollapsed.spaces c hc hblank
    · rcases List.mem_cons.1 hc with rfl | hc
      · rfl
      · exact h.spaces c hc hblank
  single := by
    refine List.isChain_append.2 ⟨hword.isCollapsed.single, ?_, ?_⟩
    · exact List.isChain_cons.2 ⟨fun d hd _ => h.head d hd, h.single⟩
    · -- The space follows on a letter of the word.
      intro c hc d _ hblank
      simp [hword.isCollapsed.last c hc] at hblank

/-- Words with spaces between them are a collapsed text. -/
theorem isCollapsed_intercalate {list : List (List Char)} (h : ∀ word ∈ list, IsWord word) :
    IsCollapsed ([' '].intercalate list) := by
  induction list with
  | nil => exact ⟨nofun, nofun, nofun, .nil⟩
  | cons word list ih =>
    obtain ⟨hword, hlist⟩ := List.forall_mem_cons.1 h
    cases list with
    | nil =>
      rw [List.intercalate_singleton]
      exact hword.isCollapsed
    | cons next list =>
      rw [List.intercalate_cons_cons, List.append_assoc, List.singleton_append]
      refine (ih hlist).cons_word hword fun hnil => ?_
      -- What is behind the space has words and so is not empty.
      have hwords := words_intercalate hlist
      rw [hnil, words_nil] at hwords
      cases hwords

theorem isCollapsed_collapse (text : List Char) : IsCollapsed (collapse text) :=
  isCollapsed_intercalate fun _ => isWord_of_mem_words

/-- A word in front of a space comes before the words behind it. -/
theorem collapse_word_append (hword : IsWord word) (hafter : words after ≠ []) :
    collapse (word ++ ' ' :: after) = word ++ ' ' :: collapse after := by
  obtain ⟨next, list, hlist⟩ := List.exists_cons_of_ne_nil hafter
  have hcut : words (word ++ ' ' :: after) = word :: next :: list := by
    rw [words_append_cons rfl, hword.words_eq, hlist, List.singleton_append]
  rw [collapse, hcut, List.intercalate_cons_cons, collapse, hlist, List.append_assoc,
    List.singleton_append]

/-- A text begins with its first word, which ends where the text does or at a blank. -/
theorem exists_word_append (h : ∀ c ∈ text.head?, isBlank c = false) (hne : text ≠ []) :
    ∃ word, IsWord word ∧
      (text = word ∨ ∃ c after, isBlank c = true ∧ text = word ++ c :: after) := by
  have hsplit := List.takeWhile_append_dropWhile (p := fun c => !isBlank c) (l := text)
  -- The text does not begin with a blank, so that its first word is not empty.
  have hfirst : IsWord (text.takeWhile fun c => !isBlank c) := by
    refine ⟨?_, fun c hc => by simpa using List.mem_takeWhile_imp hc⟩
    cases text with
    | nil => exact absurd rfl hne
    | cons c text => simp [h c rfl]
  refine ⟨_, hfirst, ?_⟩
  cases hrest : text.dropWhile fun c => !isBlank c with
  | nil =>
    rw [hrest, List.append_nil] at hsplit
    exact .inl hsplit.symm
  | cons c after =>
    have hc := List.head?_dropWhile_not (fun c => !isBlank c) text
    rw [hrest] at hsplit hc
    exact .inr ⟨c, after, by simpa using hc, hsplit.symm⟩

/-- What is behind a space in a collapsed text is a collapsed text again, and not empty. -/
theorem IsCollapsed.of_append_space (h : IsCollapsed (before ++ ' ' :: after)) :
    after ≠ [] ∧ IsCollapsed after := by
  have hne : after ≠ [] := by
    rintro rfl
    exact absurd (h.last ' ' (by simp)) (by decide)
  obtain ⟨-, hspace, -⟩ := List.isChain_append.1 h.single
  obtain ⟨hhead, hsingle⟩ := List.isChain_cons.1 hspace
  refine ⟨hne, fun c hc => hhead c hc rfl, fun c hc => h.last c ?_, fun c hc => h.spaces c ?_,
    hsingle⟩
  · rwa [List.getLast?_append_cons, List.getLast?_cons_of_ne_nil hne]
  · simp [hc]

/-- A collapsed text is left as it is. -/
theorem IsCollapsed.collapse_eq (h : IsCollapsed text) : collapse text = text := by
  -- Induction on the length: what is behind the first word and its space is collapsed, too.
  induction hn : text.length using Nat.strong_induction_on generalizing text with
  | h n ih =>
    by_cases hne : text = []
    · subst hne
      rw [collapse, words_nil]
      rfl
    obtain ⟨word, hword, rfl | ⟨c, after, hc, rfl⟩⟩ := exists_word_append h.head hne
    · rw [collapse, hword.words_eq, List.intercalate_singleton]
    · obtain rfl : c = ' ' := h.spaces c (by simp) hc
      obtain ⟨hafter, hrest⟩ := h.of_append_space
      have hself : collapse after = after := by
        refine ih after.length ?_ hrest rfl
        rw [← hn, List.length_append, List.length_cons]
        omega
      have hwords : words after ≠ [] := by
        intro hnil
        rw [collapse, hnil] at hself
        exact hafter hself.symm
      rw [collapse_word_append hword hwords, hself]

/-- The collapsed texts are those that collapsing leaves as they are. -/
theorem collapse_eq_self_iff : collapse text = text ↔ IsCollapsed text :=
  ⟨fun h => h ▸ isCollapsed_collapse text, IsCollapsed.collapse_eq⟩

/-- Texts collapse to the same exactly if they have the same words. -/
theorem collapse_eq_collapse_iff {other : List Char} :
    collapse other = collapse text ↔ words other = words text := by
  constructor
  · intro h
    rw [← words_collapse other, h, words_collapse]
  · intro h
    rw [collapse, h, collapse]

/-! ## The normal form -/

/-- What collapsing makes of a text. -/
structure Collapses (text : List Char) : Prop where
  isCollapsed : IsCollapsed (collapse text)
  /-- The words stay as they are, in their order. -/
  sameWords : words (collapse text) = words text
  /-- No character is lost or added but blanks. -/
  sameLetters : ((collapse text).filter fun c => !isBlank c) = text.filter fun c => !isBlank c
  /-- Collapsing a second time changes nothing. -/
  again : collapse (collapse text) = collapse text
  /-- Only collapsed texts are left as they are. -/
  eq_self_iff : collapse text = text ↔ IsCollapsed text
  /-- Texts collapse to the same exactly if they have the same words. -/
  eq_iff : ∀ other, collapse other = collapse text ↔ words other = words text
  /-- The two sides of a gap may be collapsed first, and the gap may be a space. -/
  gap : ∀ gap after, gap ≠ [] → (∀ c ∈ gap, isBlank c = true) →
    collapse (text ++ gap ++ after) = collapse (collapse text ++ ' ' :: collapse after)

/-- Collapsing is a normal form for the words of a text. -/
theorem collapses (text : List Char) : Collapses text where
  isCollapsed := isCollapsed_collapse text
  sameWords := words_collapse text
  sameLetters := by rw [← flatten_words, ← flatten_words, words_collapse]
  again := (isCollapsed_collapse text).collapse_eq
  eq_self_iff := collapse_eq_self_iff
  eq_iff _ := collapse_eq_collapse_iff
  gap gap after hne hgap := by
    rw [collapse_eq_collapse_iff, words_append_gap hne hgap, words_append_cons rfl, words_collapse,
      words_collapse]

end Footage.Text
