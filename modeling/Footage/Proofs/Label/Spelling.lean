import Footage.Proofs.Label.Standard
import Footage.Proofs.Pattern.Matching

/-!
# Spellings of labels

What the standard pattern of labels finds is spelled as one of its labels: the letters of a word,
each in some case, and what may follow them. Of the small letters two have a case beyond ASCII,
which a pattern that ignores case takes as well.

## Main definitions

* `Label.inAnyCase`: a small letter or a digit in all its cases.
* `Label.Spells`: the texts that spell a label.

## Main results

* `Label.exists_spells_of_meaning`: what a pattern of labels matches.
* `Label.exists_spells_of_first?`: what the standard pattern captures.
* `Label.prefix_or_prefix_of_spells`: a text spells one of two words only, unless one begins the
  other.
-/

namespace Footage

open Text Pattern

namespace Label

/-! ## Characters in all cases -/

/-- The long s. It has no other lower-case form, so that it is not read as an s. -/
def longS : Char := Char.ofNat 0x17F

/-- The sign for kelvin, whose lower-case form is a k. -/
def kelvin : Char := Char.ofNat 0x212A

/-- The digits and the small letters of ASCII. -/
def plain : List Char :=
  "0123456789abcdefghijklmnopqrstuvwxyz".toList

/-- A plain character in all its cases, in the order of their codes. -/
def inAnyCase (c : Char) : List Char :=
  if c.isDigit then [c]
  else c.toUpper :: c :: if c = 's' then [longS] else if c = 'k' then [kelvin] else []

/-- What holds of all characters of a list is decided for one of them after the other. -/
scoped instance (priority := high) decidableForallMem (p : Char → Prop) [DecidablePred p]
    (chars : List Char) : Decidable (∀ c ∈ chars, p c) :=
  chars.decidableBAll p

/-- A pattern that ignores case takes a plain character in all its cases. -/
theorem closeCaseBy_single : ∀ c ∈ plain,
    CharSet.closeCaseBy CharSet.asciiFoldPairs (.single c) =
      (inAnyCase c).map fun d => (d.toNat, d.toNat) := by
  decide +kernel

/-- All but the long s have the plain character as their lower-case form. -/
theorem lowercaseChar_of_mem_inAnyCase : ∀ c ∈ plain, ∀ d ∈ inAnyCase c, d ≠ longS →
    lowercaseChar d = [c] := by
  decide +kernel

theorem mem_inAnyCase_self : ∀ c ∈ plain, c ∈ inAnyCase c := by
  decide

theorem eq_of_longS_mem_inAnyCase : ∀ c ∈ plain, longS ∈ inAnyCase c → c = 's' := by
  decide

/-- No character is a case of two plain ones. -/
theorem eq_of_mem_inAnyCase : ∀ c ∈ plain, ∀ d ∈ plain, ∀ e ∈ inAnyCase c, e ∈ inAnyCase d →
    c = d := by
  decide +kernel

theorem mem_of_has_map {chars : List Char} {d : Char}
    (h : CharSet.has (chars.map fun c => (c.toNat, c.toNat)) d = true) : d ∈ chars := by
  induction chars with
  | nil => cases h
  | cons c chars ih =>
    -- A search through single characters ends at the first one that is not less.
    simp only [CharSet.has, List.map_cons, CodeRanges.covers] at h
    split at h
    · cases h
    · rw [Bool.or_eq_true, decide_eq_true_eq] at h
      rcases h with hle | hrest
      · rw [Char.toNat_inj.1 (show d.toNat = c.toNat by omega)]
        exact List.mem_cons_self
      · exact List.mem_cons_of_mem _ (ih hrest)

/-! ## Texts that spell labels -/

/-- Whether the letter of a piece is plain. -/
def Piece.isPlain : Piece → Bool
  | letter c => c ∈ plain
  | gap | rest => true

/-- A text spells a piece. -/
def Piece.Spells : Piece → List Char → Prop
  | letter c, text => ∃ d ∈ inAnyCase c, text = [d]
  | gap, text => text = [] ∨ text = [' '] ∨ text = ['-']
  | rest, text => ∀ c ∈ text, isWordChar c = true

/-- A text spells some pieces, one after the other. -/
def Spells : List Piece → List Char → Prop
  | [], text => text = []
  | piece :: pieces, text =>
    ∃ front back, text = front ++ back ∧ piece.Spells front ∧ Spells pieces back

variable {piece : Piece} {pieces others : List Piece}

section Texts

variable {text : List Char}

theorem spells_append_iff : Spells (pieces ++ others) text ↔
    ∃ stem tail, text = stem ++ tail ∧ Spells pieces stem ∧ Spells others tail := by
  induction pieces generalizing text with
  | nil => simp [Spells]
  | cons piece pieces ih =>
    constructor
    · rintro ⟨front, back, rfl, hfront, hback⟩
      obtain ⟨stem, tail, rfl, hstem, htail⟩ := ih.1 hback
      exact ⟨front ++ stem, tail, (List.append_assoc ..).symm, ⟨front, stem, rfl, hfront, hstem⟩,
        htail⟩
    · rintro ⟨_, tail, rfl, ⟨front, stem, rfl, hfront, hstem⟩, htail⟩
      exact ⟨front, stem ++ tail, List.append_assoc .., hfront,
        ih.2 ⟨stem, tail, rfl, hstem, htail⟩⟩

theorem spells_singleton_iff : Spells [piece] text ↔ piece.Spells text := by
  simp [Spells]

end Texts

/-- A word is one of its spellings. -/
theorem spells_map_letter {word : List Char} (hword : ∀ c ∈ word, c ∈ plain) :
    Spells (word.map .letter) word := by
  induction word with
  | nil => rfl
  | cons c word ih =>
    obtain ⟨hc, hrest⟩ := List.forall_mem_cons.1 hword
    exact ⟨[c], word, rfl, ⟨c, mem_inAnyCase_self c hc, rfl⟩, ih hrest⟩

/-- Only an s is spelled with a long s. -/
theorem longS_notMem_of_spells {word stem : List Char} (hword : ∀ c ∈ word, c ∈ plain)
    (hs : 's' ∉ word) (hstem : Spells (word.map .letter) stem) : longS ∉ stem := by
  induction word generalizing stem with
  | nil =>
    obtain rfl : stem = [] := hstem
    exact List.not_mem_nil
  | cons c word ih =>
    obtain ⟨_, stem, rfl, ⟨d, hd, rfl⟩, hstem⟩ := hstem
    obtain ⟨hc, hrest⟩ := List.forall_mem_cons.1 hword
    obtain ⟨hne, hs⟩ := not_or.1 (mt List.mem_cons.2 hs)
    rw [List.singleton_append, List.mem_cons, not_or]
    refine ⟨?_, ih hrest hs hstem⟩
    rintro rfl
    exact hne (eq_of_longS_mem_inAnyCase c hc hd).symm

/-- A text that spells two words spells the shorter one as the beginning of the other. -/
theorem prefix_or_prefix_of_spells {word other stem tail otherStem otherTail : List Char}
    (hword : ∀ c ∈ word, c ∈ plain) (hother : ∀ c ∈ other, c ∈ plain)
    (hstem : Spells (word.map .letter) stem) (hotherStem : Spells (other.map .letter) otherStem)
    (htext : stem ++ tail = otherStem ++ otherTail) : word <+: other ∨ other <+: word := by
  induction word generalizing other stem otherStem with
  | nil => exact .inl List.nil_prefix
  | cons c word ih =>
    cases other with
    | nil => exact .inr List.nil_prefix
    | cons d other =>
      obtain ⟨_, stem, rfl, ⟨e, he, rfl⟩, hstem⟩ := hstem
      obtain ⟨_, otherStem, rfl, ⟨e', he', rfl⟩, hotherStem⟩ := hotherStem
      obtain ⟨rfl, hrestText⟩ := List.cons.inj htext
      obtain ⟨hc, hrest⟩ := List.forall_mem_cons.1 hword
      obtain ⟨hd, hotherRest⟩ := List.forall_mem_cons.1 hother
      -- The first characters are the same, so that they are of one plain character.
      obtain rfl := eq_of_mem_inAnyCase c hc d hd e he he'
      simpa only [List.cons_prefix_cons, true_and] using
        ih hrest hotherRest hstem hotherStem hrestText

/-- Without a long s, the lower-case form of the letters of a word is the word. -/
theorem lowercase_of_spells {word stem : List Char} (hword : ∀ c ∈ word, c ∈ plain)
    (hstem : Spells (word.map .letter) stem) (hlong : longS ∉ stem) : lowercase stem = word := by
  induction word generalizing stem with
  | nil =>
    obtain rfl : stem = [] := hstem
    rfl
  | cons c word ih =>
    obtain ⟨_, stem, rfl, ⟨d, hd, rfl⟩, hstem⟩ := hstem
    obtain ⟨hc, hword⟩ := List.forall_mem_cons.1 hword
    obtain ⟨hne, hlong⟩ := not_or.1 (mt List.mem_cons.2 hlong)
    have hrest : lowercase stem = word := ih hword hstem hlong
    rw [List.singleton_append, lowercase, List.flatMap_cons,
      lowercaseChar_of_mem_inAnyCase c hc d hd (Ne.symm hne), ← lowercase, hrest,
      List.singleton_append]

/-! ## What pieces match -/

section Matching

variable {text : Array Char} {a b : Stage}

/-- What a piece matches spells the piece. -/
theorem exists_spells_of_piece (hplain : piece.isPlain = true)
    (h : piece.meaning.Matches text a b) : ∃ chars, piece.Spells chars ∧ Takes text a chars b := by
  cases piece with
  | letter c =>
    obtain ⟨d, hd, htakes⟩ := exists_takes_of_chars h
    rw [closeCaseBy_single c (of_decide_eq_true hplain)] at hd
    exact ⟨[d], ⟨d, mem_of_has_map hd, rfl⟩, htakes⟩
  | gap =>
    -- At most one character is taken.
    obtain ⟨count, -, hmost, htimes⟩ := h
    obtain ⟨chars, hlength, hchars, htakes⟩ := exists_takes_of_times htimes
    have hmem : ∀ c ∈ chars, c ∈ [' ', '-'] := fun c hc => mem_of_has_map (hchars c hc)
    have hcount : count ≤ 1 := hmost 1 rfl
    refine ⟨chars, ?_, htakes⟩
    rcases chars with _ | ⟨c, _ | ⟨d, chars⟩⟩
    · exact .inl rfl
    · simpa [Piece.Spells] using hmem c List.mem_cons_self
    · simp only [List.length_cons] at hlength
      omega
  | rest =>
    obtain ⟨count, -, -, htimes⟩ := h
    obtain ⟨chars, -, hchars, htakes⟩ := exists_takes_of_times htimes
    exact ⟨chars, hchars, htakes⟩

/-- What some pieces match one after the other spells them. -/
theorem exists_spells_of_concatAll (hplain : ∀ piece ∈ pieces, piece.isPlain = true)
    (h : (Expr.concatAll (pieces.map Piece.meaning)).Matches text a b) :
    ∃ chars, Spells pieces chars ∧ Takes text a chars b := by
  induction pieces generalizing a with
  | nil =>
    obtain rfl : a = b := h
    exact ⟨[], rfl, takes_nil a⟩
  | cons piece pieces ih =>
    obtain ⟨hpiece, hpieces⟩ := List.forall_mem_cons.1 hplain
    cases pieces with
    | nil =>
      obtain ⟨chars, hchars, htakes⟩ := exists_spells_of_piece hpiece h
      exact ⟨chars, spells_singleton_iff.2 hchars, htakes⟩
    | cons next pieces =>
      obtain ⟨mid, hfirst, hrest⟩ := h
      obtain ⟨front, hfront, htakes⟩ := exists_spells_of_piece hpiece hfirst
      obtain ⟨back, hback, htakes'⟩ := ih hpieces hrest
      exact ⟨front ++ back, ⟨front, back, rfl, hfront, hback⟩, htakes.append htakes'⟩

theorem exists_mem_of_alternateAll {options : List Expr} (hne : options ≠ [])
    (h : (Expr.alternateAll options).Matches text a b) :
    ∃ option ∈ options, option.Matches text a b := by
  induction options with
  | nil => exact absurd rfl hne
  | cons first options ih =>
    cases options with
    | nil => exact ⟨first, List.mem_singleton_self first, h⟩
    | cons next options =>
      rcases h with hfirst | hrest
      · exact ⟨first, List.mem_cons_self, hfirst⟩
      · obtain ⟨option, hoption, hmatches⟩ := ih (List.cons_ne_nil _ _) hrest
        exact ⟨option, List.mem_cons_of_mem _ hoption, hmatches⟩

/-- A pattern of labels captures what spells one of them. -/
theorem exists_spells_of_meaning {spellings : List (List Piece)} (hne : spellings ≠ [])
    (hplain : ∀ pieces ∈ spellings, ∀ piece ∈ pieces, piece.isPlain = true)
    (h : (meaning spellings).Matches text a b) :
    ∃ pieces ∈ spellings, ∃ chars, Spells pieces chars ∧
      chars <+: text.toList.drop a.position ∧ b = ⟨a.position + chars.length,
        (3, a.position + chars.length) :: (2, a.position) :: a.saved⟩ := by
  -- The flags and the word's edge take nothing, so that the capture starts where the match does.
  obtain ⟨_, rfl, _, ⟨-, rfl⟩, mid, hmatches, rfl⟩ := h
  obtain ⟨option, hoption, hmatches⟩ :=
    exists_mem_of_alternateAll (mt List.map_eq_nil_iff.1 hne) hmatches
  obtain ⟨pieces, hpieces, rfl⟩ := List.mem_map.1 hoption
  obtain ⟨chars, hchars, rfl, hprefix⟩ :=
    exists_spells_of_concatAll (hplain pieces hpieces) hmatches
  exact ⟨pieces, hpieces, chars, hchars, hprefix, rfl⟩

end Matching

/-! ## The standard pattern -/

/-- What the standard pattern captures spells one of the standard labels. -/
theorem exists_spells_of_first? {text : String} {found : Match}
    (h : Pattern.standardLabel.first? text = some found) :
    ∃ pieces ∈ spellings, ∃ label, Spells pieces label ∧ label <:+: text.toList ∧
      found.groups[1]? = some (some (String.ofList label)) := by
  obtain ⟨start, stop, saved, -, -, hmatches, rfl⟩ := exists_matches_of_findFrom? rfl h
  obtain ⟨pieces, hpieces, label, hlabel, hprefix, hstage⟩ :=
    exists_spells_of_meaning (by decide) (by decide) hmatches
  obtain ⟨rfl, rfl⟩ := Stage.mk.inj hstage
  refine ⟨pieces, hpieces, label, hlabel, ?_, ?_⟩
  · exact hprefix.isInfix.trans (List.drop_suffix _ _).isInfix
  · rw [← slice_of_prefix hprefix]
    rfl

end Label

end Footage
