import Footage.Proofs.Fixture.Size

/-!
# Titles of fixtures

Whatever a text names, the title of the fixture names it too: a word and a number without leading
zeros, the title of a known round, or the text of a round of some size.

## Main definitions

* `Fixture.Names`: what a text that is accepted names.

## Main results

* `Fixture.names_of_read?`: a text that is accepted is of one of these kinds.
* `Fixture.Names.read?_title`: each of them is read from its title.
* `Fixture.read?_title_of_read?`: a fixture that was read is read again from its title.
-/

namespace Footage.Fixture

open Text

variable {text word : List Char} {n : Nat} {fixture : Fixture}

/-- What a text that is accepted names. -/
inductive Names (text : List Char) : Fixture → Prop
  /-- A matchday, with the word before its number. -/
  | numbered {word : List Char} {n : Nat} (hnumbered : IsNumbered text word n) :
      Names text (titled word n)
  /-- A round that is known by a word. -/
  | known {name : String} {fixture : Fixture} (hunnumbered : Unnumbered text)
      (hknown : (name, fixture) ∈ named) : Names text fixture
  /-- The round of some number of teams. -/
  | sized {teams : Nat} {fixture : Fixture} (hunnumbered : Unnumbered text)
      (hsized : roundOf? teams = some fixture) : Names text fixture

theorem names_of_read? (h : read? text = some fixture) : Names text fixture := by
  by_cases hunnumbered : Unnumbered text
  · rw [read?_of_unnumbered hunnumbered, Option.orElse_eq_some] at h
    obtain hknown | ⟨-, hround⟩ := h
    · obtain ⟨entry, hfind, rfl⟩ := Option.map_eq_some_iff.1 hknown
      exact .known hunnumbered (List.mem_of_find?_eq_some hfind)
    · obtain ⟨teams, hsized⟩ := exists_roundOf?_of_readRound? hround
      exact .sized hunnumbered hsized
  · simp only [Unnumbered, not_forall, not_not] at hunnumbered
    obtain ⟨word, n, hnumbered⟩ := hunnumbered
    rw [read?_of_isNumbered hnumbered, Option.some_inj] at h
    exact h ▸ .numbered hnumbered

/-- The title of a matchday is a word and a number. -/
theorem isNumbered_title (hword : IsWord word) (hn : n < 1000) :
    IsNumbered (titled word n).title.toList word n := by
  have htitle := toList_title_titled word n
  have hne : (titled word n).title.toList ≠ [] := by simp [htitle]
  have hfirst : ∀ c ∈ (titled word n).title.toList.head?, isBlank c = false := by
    intro c hc
    rw [htitle, List.head?_append_of_ne_nil _ hword.ne_nil] at hc
    exact isBlank_of_isWordChar (hword.isWordChar c (List.mem_of_mem_head? hc))
  have hlast : ∀ c ∈ (titled word n).title.toList.getLast?, isBlank c = false := fun c hc =>
    isBlank_of_isDigit (isDigit_of_mem_getLast?_titled hc)
  refine .titled hword (isNumeral_decimal hn) ?_
  rw [trim_eq_self hne hfirst hlast, htitle]

/-- What a text names is read from its title. -/
theorem Names.read?_title (h : Names text fixture) : read? fixture.title.toList = some fixture := by
  cases h with
  | numbered hnumbered => exact read?_of_isNumbered (isNumbered_title hnumbered.isWord hnumbered.lt)
  | @known name _ _ hknown =>
    have htitles : ∀ entry ∈ named, read? entry.2.title.toList = some entry.2 := by decide +kernel
    exact htitles (name, fixture) hknown
  | sized _ hsized =>
    rw [title_of_roundOf? hsized, String.toList_ofList]
    exact read?_roundText hsized

/-- A fixture that was read is read again from its title. -/
theorem read?_title_of_read? (h : read? text = some fixture) :
    read? fixture.title.toList = some fixture :=
  (names_of_read? h).read?_title

/-- A word in Cyrillic letters, and a number without its leading zeros. -/
def seventhTour : Fixture := ⟨"Тур 7", 7⟩

theorem read?_title_seventhTour : read? "Тур 007".toList = some seventhTour ∧
    read? seventhTour.title.toList = some seventhTour := by
  have hread : read? "Тур 007".toList = some seventhTour := by decide +kernel
  exact ⟨hread, read?_title_of_read? hread⟩

end Footage.Fixture
