import Footage.Proofs.Fixture.Token
import Footage.Proofs.Label.Spelling
import Footage.Proofs.Outcome
import Mathlib.Data.List.Find

/-!
# Reading labels

The labels that the standard pattern finds are spelled with the words by which parts are recognised.
But the pattern tries its labels at one position, while a part is recognised by the first word of
the vocabulary that stands anywhere in the label. The two agree but for what the pattern takes after
a word: there a word may stand that is looked for earlier.

## Main definitions

* `Label.Entry`: a word of the vocabulary with the label of the pattern that begins with it.
* `Label.Entry.override?`: the part of an earlier word in what follows a word.
* `SourceKit.NamesOwnPart`: a label names the part of its own word.
* `SourceKit.ReadsLabel`: what is read from the label that the pattern finds.

## Main results

* `Label.infix_append_iff`: a word that does not overlap another one stands behind it.
* `Label.ofLabel?_append`: the part that a label names.
* `SourceKit.exists_readsLabel`: the part of each text with a label.
-/

namespace Footage

open Text Pattern

namespace Label

/-! ## Entries -/

/-- A label of the standard pattern: a word of the vocabulary, its part and what may follow it. -/
structure Entry where
  word : String
  part : Part
  ending : List Piece
  deriving DecidableEq

/-- What the label is spelled with. -/
def Entry.pieces (entry : Entry) : List Piece :=
  letters entry.word ++ entry.ending

/-- The labels of the standard pattern, in their order. -/
def entries : List Entry :=
  [⟨"pre", .preMatch, [.rest]⟩, ⟨"1st", .firstHalf, []⟩, ⟨"first", .firstHalf, []⟩,
    ⟨"2nd", .secondHalf, []⟩, ⟨"second", .secondHalf, []⟩,
    ⟨"extra", .extraTime, .gap :: letters "time"⟩, ⟨"penalt", .extraTime, [.rest]⟩,
    ⟨"post", .postMatch, [.rest]⟩, ⟨"trophy", .trophyCeremony, []⟩]

/-- The pattern and the vocabulary have the same entries in the same order. -/
theorem map_pieces_entries : entries.map Entry.pieces = spellings :=
  rfl

theorem map_part_entries :
    entries.map (fun entry => (entry.word, entry.part)) = Part.vocabulary :=
  rfl

theorem plain_of_mem_entries : ∀ entry ∈ entries, ∀ c ∈ entry.word.toList, c ∈ plain := by
  decide

theorem ne_nil_of_spells {entry : Entry} {stem : List Char} (hentry : entry ∈ entries)
    (hstem : Spells (letters entry.word) stem) : stem ≠ [] := by
  have hwords : ∀ entry ∈ entries, entry.word.toList ≠ [] := by decide
  rintro rfl
  obtain ⟨c, word, hword⟩ := List.exists_cons_of_ne_nil (hwords entry hentry)
  rw [letters, hword] at hstem
  obtain ⟨_, _, hnil, ⟨d, -, rfl⟩, -⟩ := hstem
  cases hnil

/-- The label that a text spells is told from the text. -/
theorem entry_eq_of_spells {entry other : Entry} {text : List Char} (hentry : entry ∈ entries)
    (hother : other ∈ entries) (h : Spells entry.pieces text) (h' : Spells other.pieces text) :
    entry = other := by
  have hwords : ∀ entry ∈ entries, ∀ other ∈ entries,
      entry.word.toList <+: other.word.toList → entry = other := by
    decide
  obtain ⟨stem, tail, htext, hstem, -⟩ := spells_append_iff.1 h
  obtain ⟨otherStem, otherTail, htext', hotherStem, -⟩ := spells_append_iff.1 h'
  -- No word begins another one.
  rcases prefix_or_prefix_of_spells (plain_of_mem_entries entry hentry)
    (plain_of_mem_entries other hother) hstem hotherStem (htext.symm.trans htext') with hle | hle
  · exact hwords entry hentry other hother hle
  · exact (hwords other hother entry hentry hle).symm

/-! ## Words in labels -/

/-- A word stands in a text behind another one, if no end of the other word can be its beginning. -/
theorem infix_append_iff {word front back : List Char}
    (h : ∀ suffix ∈ front.tails, suffix ≠ [] → ¬suffix <+: word ∧ ¬word <+: suffix) :
    word <:+: front ++ back ↔ word <:+: back := by
  induction front with
  | nil => rfl
  | cons c front ih =>
    rw [List.tails, List.forall_mem_cons] at h
    obtain ⟨hfront, hword⟩ := h.1 (List.cons_ne_nil c front)
    have hstart : ¬word <+: c :: front ++ back := fun hprefix =>
      (List.prefix_or_prefix_of_prefix hprefix (List.prefix_append _ _)).elim hword hfront
    rw [List.cons_append, List.infix_cons_iff, ← List.cons_append, ih h.2]
    exact or_iff_right hstart

/-- The entries whose words are looked for before that of an entry. -/
def Entry.earlier (entry : Entry) : List Entry :=
  entries.takeWhile (· ≠ entry)

/-- The part of the first earlier word in what follows the word of an entry. -/
def Entry.override? (entry : Entry) (tail : List Char) : Option Part :=
  (entry.earlier.find? fun other => mentions (lowercase tail) other.word).map Entry.part

theorem entries_eq_earlier_append : ∀ entry ∈ entries,
    entries = entry.earlier ++ entry :: entries.drop (entry.earlier.length + 1) := by
  decide

/-- No earlier word overlaps the word of an entry. -/
theorem mentions_append {entry other : Entry} (hentry : entry ∈ entries)
    (hother : other ∈ entry.earlier) (tail : List Char) :
    mentions (entry.word.toList ++ tail) other.word = mentions tail other.word := by
  have hapart : ∀ entry ∈ entries, ∀ other ∈ entry.earlier, ∀ suffix ∈ entry.word.toList.tails,
      suffix ≠ [] → ¬suffix <+: other.word.toList ∧ ¬other.word.toList <+: suffix := by
    decide
  rw [Bool.eq_iff_iff, mentions_iff_isInfix, mentions_iff_isInfix]
  exact infix_append_iff (hapart entry hentry other hother)

/-- A label names the part of the word that it begins with unless an earlier word is behind it. -/
theorem ofLabel?_append {entry : Entry} {stem tail : List Char} (hentry : entry ∈ entries)
    (hstem : lowercase stem = entry.word.toList) :
    Part.ofLabel? (stem ++ tail) = some ((entry.override? tail).getD entry.part) := by
  have hlabel : lowercase (stem ++ tail) = entry.word.toList ++ lowercase tail := by
    rw [← hstem, lowercase, lowercase, lowercase, List.flatMap_append]
  have hearlier :
      entry.earlier.find? (fun other => mentions (lowercase (stem ++ tail)) other.word) =
        entry.earlier.find? fun other => mentions (lowercase tail) other.word :=
    List.find?_congr fun other hother => by rw [hlabel, mentions_append hentry hother]
  have hself : mentions (lowercase (stem ++ tail)) entry.word = true := by
    rw [mentions_iff_isInfix, hlabel]
    exact (List.prefix_append _ _).isInfix
  -- The search comes to the entry itself if it passes the earlier ones.
  have hfind : entries.find? (fun other => mentions (lowercase (stem ++ tail)) other.word) =
      (entry.earlier.find? fun other => mentions (lowercase tail) other.word).or (some entry) := by
    conv_lhs => rw [entries_eq_earlier_append entry hentry]
    rw [List.find?_append, hearlier, List.find?_cons, hself]
  have hoption : Part.ofLabel? (stem ++ tail) = (entries.find? fun other =>
      mentions (lowercase (stem ++ tail)) other.word).map Entry.part := by
    rw [Part.ofLabel?, ← map_part_entries, List.find?_map, Option.map_map]
    rfl
  rw [hoption, hfind, Entry.override?]
  cases entry.earlier.find? fun other => mentions (lowercase tail) other.word <;> rfl

/-- No earlier word stands in a label that the pattern spells out to its end. -/
theorem override?_eq_none {entry : Entry} {tail : List Char} (hentry : entry ∈ entries)
    (hpenalt : entry.word ≠ "penalt") (hpost : entry.word ≠ "post")
    (htail : Spells entry.ending tail) : entry.override? tail = none := by
  have hkinds : ∀ entry ∈ entries, entry.word ≠ "penalt" → entry.word ≠ "post" →
      entry.earlier = [] ∨ entry.ending = [] ∨ entry.ending = .gap :: letters "time" := by
    decide
  -- The first word has no earlier one. A word that nothing may follow leaves no room for another,
  -- and where "time" may follow, no earlier word stands in it.
  rcases hkinds entry hentry hpenalt hpost with hfirst | hending | hending
  · rw [Entry.override?, hfirst]
    rfl
  · have hnone : ∀ entry ∈ entries, entry.override? [] = none := by decide
    rw [hending] at htail
    obtain rfl : tail = [] := htail
    exact hnone entry hentry
  · have hnone : ∀ entry ∈ entries, ∀ gap ∈ [[], [' '], ['-']], ∀ other ∈ entry.earlier,
        mentions (gap ++ "time".toList) other.word = false := by
      decide
    have htime : ∀ c ∈ "time".toList, c ∈ plain := by decide
    rw [hending] at htail
    obtain ⟨gap, time, rfl, hgap, hspells⟩ := htail
    have hlowercase : lowercase (gap ++ time) = gap ++ "time".toList := by
      have hgapCase : ∀ gap ∈ [[], [' '], ['-']], lowercase gap = gap := by decide
      rw [lowercase, List.flatMap_append, ← lowercase, ← lowercase,
        lowercase_of_spells htime hspells (longS_notMem_of_spells htime (by decide) hspells),
        hgapCase gap (by simpa [Piece.Spells] using hgap)]
    rw [Entry.override?, hlowercase, Option.map_eq_none_iff, List.find?_eq_none]
    intro other hother
    rw [hnone entry hentry gap (by simpa [Piece.Spells] using hgap) other hother]
    exact Bool.false_ne_true

end Label

namespace SourceKit

open Label

variable {kit : SourceKit} {text : String}

/-- Kits that give no pattern of labels have the standard one. -/
theorem partLabel_of_compile_none {source : String} {mapping : Mapping} {videoUrl : String}
    (h : compile source mapping videoUrl none = .ok kit) : kit.partLabel = .standardLabel := by
  rw [compile_none] at h
  obtain ⟨_, -, h⟩ := Except.bind_eq_ok_iff.1 h
  obtain ⟨_, -, h⟩ := Except.bind_eq_ok_iff.1 h
  obtain rfl := Except.ok.inj h
  rfl

/-- The part of a text with a label is that of the label. -/
theorem part?_of_captured? {found : Match} {label : String}
    (hfound : kit.partLabel.first? text = some found)
    (hlabel : found.captured? 1 = some label) : kit.part? text = Part.ofLabel? label.toList := by
  rw [part?, hfound, Option.bind_eq_bind, Option.bind_some, hlabel]
  rfl

/-- The label in a text names the part of the word that it begins with. -/
def NamesOwnPart (kit : SourceKit) (text : String) : Prop :=
  ∀ found, kit.partLabel.first? text = some found → ∀ label, found.captured? 1 = some label →
    ∀ entry ∈ entries, Spells entry.pieces label.toList → kit.part? text = some entry.part

/-- What is read from the label that the standard pattern finds in a text. -/
structure ReadsLabel (kit : SourceKit) (text : String) (found : Match) (entry : Entry)
    (stem tail : List Char) : Prop where
  /-- The label begins with a word of the vocabulary. -/
  mem : entry ∈ entries
  spells_stem : Spells (letters entry.word) stem
  /-- What follows is what may follow this word. -/
  spells_tail : Spells entry.ending tail
  captured : found.captured? 1 = some (String.ofList (stem ++ tail))
  /-- No other entry is spelled like this. -/
  only : ∀ other ∈ entries, Spells other.pieces (stem ++ tail) → other = entry
  /-- The label names the part of its word, unless an earlier word stands in what follows. A long s
  has no s for its lower-case form, so that a word that is spelled with it need not be found. -/
  part : longS ∉ stem → kit.part? text = some ((entry.override? tail).getD entry.part)
  /-- Only where the rest of a word follows can an earlier word stand there. -/
  part_of_closed : longS ∉ stem → entry.word ≠ "penalt" → entry.word ≠ "post" →
    kit.part? text = some entry.part

/-- A text in which the standard pattern finds a label has the part of the label. -/
theorem exists_readsLabel {source : String} {mapping : Mapping} {videoUrl : String} {found : Match}
    (hkit : compile source mapping videoUrl none = .ok kit)
    (hfound : kit.partLabel.first? text = some found) :
    ∃ entry stem tail, kit.ReadsLabel text found entry stem tail := by
  have hstandard := hfound
  rw [partLabel_of_compile_none hkit] at hstandard
  obtain ⟨pieces, hpieces, label, hlabel, -, hgroup⟩ := exists_spells_of_first? hstandard
  rw [← map_pieces_entries] at hpieces
  obtain ⟨entry, hentry, rfl⟩ := List.mem_map.1 hpieces
  obtain ⟨stem, tail, rfl, hstem, htail⟩ := spells_append_iff.1 hlabel
  -- A group that captures nothing would not count as a label.
  have hne : stem ≠ [] := ne_nil_of_spells hentry hstem
  have hcaptured : found.captured? 1 = some (String.ofList (stem ++ tail)) := by
    simp [Match.captured?, hgroup, hne]
  have hpart : longS ∉ stem → kit.part? text = some ((entry.override? tail).getD entry.part) := by
    intro hlong
    rw [part?_of_captured? hfound hcaptured, String.toList_ofList]
    exact ofLabel?_append hentry
      (lowercase_of_spells (plain_of_mem_entries entry hentry) hstem hlong)
  refine ⟨entry, stem, tail, hentry, hstem, htail, hcaptured, ?_, hpart, ?_⟩
  · exact fun other hother hspells => entry_eq_of_spells hother hentry hspells hlabel
  · intro hlong hpenalt hpost
    rw [hpart hlong, override?_eq_none hentry hpenalt hpost htail]
    rfl

/-- A kit without a pattern of its own for labels. -/
theorem exists_kit (test : SourceKit → Bool)
    (htest : ((do
      let kit ← Kit.compile .standard .source "Channel: ([A-Z])" [(1, .channel)]
      let videoUrl ← pattern Pattern.ofText? "^https:"
      return { kit, videoUrl, partLabel := .standardLabel }) :
        Except Failure SourceKit).toOption.any test = true) :
    ∃ kit, compile "Channel: ([A-Z])" [(1, .channel)] "^https:" none = .ok kit ∧
      test kit = true := by
  rw [compile_none]
  exact Except.exists_of_any_toOption htest

/-- The label of the penalties names its own part. -/
theorem exists_readsLabel_penalties : ∃ kit found,
    compile "Channel: ([A-Z])" [(1, .channel)] "^https:" none = .ok kit ∧
      kit.partLabel.first? "Penalties: " = some found ∧
        ∃ entry stem tail, kit.ReadsLabel "Penalties: " found entry stem tail := by
  obtain ⟨kit, hkit, hfound⟩ := exists_kit
    (fun kit => (kit.partLabel.first? "Penalties: ").isSome) (by decide +kernel)
  obtain ⟨found, hfound⟩ := Option.isSome_iff_exists.1 hfound
  exact ⟨kit, found, hkit, hfound, exists_readsLabel hkit hfound⟩

/-- The pattern takes "post1st" for a label after the match, but it names the first half. -/
theorem not_namesOwnPart_post1st : ∃ kit,
    compile "Channel: ([A-Z])" [(1, .channel)] "^https:" none = .ok kit ∧
      kit.part? "post1st" = some .firstHalf ∧ ¬kit.NamesOwnPart "post1st" := by
  obtain ⟨kit, hkit, htest⟩ := exists_kit
    (fun kit =>
      (kit.partLabel.first? "post1st").any (fun found => found.captured? 1 == some "post1st") &&
        kit.part? "post1st" == some .firstHalf) (by decide +kernel)
  rw [Bool.and_eq_true, Option.any_eq_true, beq_iff_eq] at htest
  obtain ⟨⟨found, hfound, hcaptured⟩, hpart⟩ := htest
  refine ⟨kit, hkit, hpart, fun h => ?_⟩
  have hspells : Spells (letters "post" ++ [.rest]) "post1st".toList :=
    spells_append_iff.2 ⟨"post".toList, "1st".toList, rfl, spells_map_letter (by decide),
      spells_singleton_iff.2 (show ∀ c ∈ "1st".toList, isWordChar c = true by decide +kernel)⟩
  have hown := h found hfound "post1st" (beq_iff_eq.1 hcaptured) ⟨"post", .postMatch, [.rest]⟩
    (by decide) hspells
  rw [hpart] at hown
  cases hown

end SourceKit

end Footage
