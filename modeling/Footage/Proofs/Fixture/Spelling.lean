import Footage.Proofs.Fixture.Token

/-!
# Spellings of known rounds

Case, blanks, hyphens and underscores do not matter for the word of a known round, since only the
normal form is searched for it. But a word and a number are read before that. So two spellings with
the same normal form name the same round exactly if neither is a word and a number.

## Main definitions

* `Fixture.ReadsAlike`: what is read from two spellings of a known round.

## Main results

* `Fixture.read?_eq_known_iff`: the texts from which a known round is read.
* `Fixture.readsAlike`: spellings with the same normal form.
-/

namespace Footage.Fixture

open Text

variable {text word first second : List Char} {n : Nat} {round : Fixture}

theorem IsFirstNamed.exists_mem_named (h : IsFirstNamed (normalForm text) round) :
    ∃ name, (name, round) ∈ named := by
  obtain ⟨earlier, name, later, hnamed, -⟩ := h
  exact ⟨name, by simp [hnamed]⟩

/-- A known round is read from its spellings that are no number. -/
theorem read?_eq_known_iff (h : IsFirstNamed (normalForm text) round) :
    read? text = some round ↔ Unnumbered text := by
  constructor
  · intro hread word n hnumbered
    obtain ⟨name, hname⟩ := h.exists_mem_named
    rw [read?_of_isNumbered hnumbered, Option.some_inj] at hread
    exact titled_ne_of_mem_named hname hread
  · intro hunnumbered
    rw [read?_of_unnumbered hunnumbered, namedIn?_eq_some_iff.2 h]
    rfl

/-- A spelling of a known round is too long for a number alone. -/
theorem IsNumbered.exists_titled (h : IsNumbered text word n)
    (hround : IsFirstNamed (normalForm text) round) :
    ∃ digits, IsNumeral digits n ∧ trim text = word ++ ' ' :: digits := by
  cases h with
  | alone hnumber =>
    -- Digits have a normal form that is no longer, and the words have four letters or more.
    have hdigits : ∀ c ∈ trim text, isDecimalDigit c = true := fun c hc =>
      isDecimalDigit_of_isDigit (hnumber.isDigit c hc)
    have hnone := namedIn?_eq_none_iff.2 (namesNone_of_digits hdigits hnumber.length_le)
    rw [namedIn?_eq_some_iff.2 hround] at hnone
    cases hnone
  | titled _ hnumber htext => exact ⟨_, hnumber, htext⟩

/-- What is read from two spellings of a known round. -/
structure ReadsAlike (first second : List Char) (round : Fixture) : Prop where
  /-- It is the round in both cases exactly if neither is a number after a word. -/
  both_iff : read? first = some round ∧ read? second = some round ↔
    Unnumbered first ∧ Unnumbered second
  /-- A number after a word is that of a matchday, which has the word for its title. -/
  numbered : ∀ text ∈ [first, second], ∀ word n, IsNumbered text word n →
    (∃ digits, IsNumeral digits n ∧ trim text = word ++ ' ' :: digits) ∧
      read? text = some (titled word n)

/-- Spellings with the same normal form, in which a known round is named. -/
theorem readsAlike (hform : normalForm first = normalForm second)
    (hround : IsFirstNamed (normalForm first) round) : ReadsAlike first second round where
  both_iff := by
    rw [read?_eq_known_iff hround, read?_eq_known_iff (hform ▸ hround)]
  numbered := by
    intro text htext word n hnumbered
    have hround' : IsFirstNamed (normalForm text) round := by
      rw [List.mem_pair] at htext
      obtain rfl | rfl := htext
      · exact hround
      · exact hform ▸ hround
    exact ⟨hnumbered.exists_titled hround', read?_of_isNumbered hnumbered⟩

/-- Two spellings of the first semi-final, with a hyphen and without one. -/
def hyphenated : List Char := "Semi-Final 1".toList
def joined : List Char := "Semifinal 1".toList

theorem isFirstNamed_hyphenated : normalForm hyphenated = normalForm joined ∧
    IsFirstNamed (normalForm hyphenated) semiFinal := by
  rw [← namedIn?_eq_some_iff]
  decide +kernel

/-- The spelling with the hyphen is no number, and the other one is. -/
theorem semiFinals_readAlike : normalForm hyphenated = normalForm joined ∧
    IsFirstNamed (normalForm hyphenated) semiFinal ∧
    ¬(read? hyphenated = some semiFinal ∧ read? joined = some semiFinal) ∧
    read? joined = some (titled "Semifinal".toList 1) := by
  have hnumbered : IsNumbered joined "Semifinal".toList 1 :=
    .titled (isWord_iff.2 (by decide +kernel)) (isNumeral_decimal (by decide)) (by decide +kernel)
  obtain ⟨hform, hround⟩ := isFirstNamed_hyphenated
  have halike := readsAlike hform hround
  obtain ⟨-, hread⟩ := halike.numbered joined (by simp) _ _ hnumbered
  exact ⟨hform, hround, fun hboth => (halike.both_iff.1 hboth).2 _ _ hnumbered, hread⟩

/-- So a hyphen makes a difference. -/
theorem semiFinals_differ : ∃ first second round, normalForm first = normalForm second ∧
    IsFirstNamed (normalForm first) round ∧ read? first = some round ∧
    read? second = some ⟨"Semifinal 1", 1⟩ ∧ round = ⟨"Semi-Final", 4194304⟩ := by
  obtain ⟨hform, hround⟩ := isFirstNamed_hyphenated
  refine ⟨hyphenated, joined, semiFinal, hform, hround, ?_, ?_, rfl⟩
  · decide +kernel
  · decide +kernel

end Footage.Fixture
