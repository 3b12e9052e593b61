import Footage.Proofs.Fixture.Title

/-!
# The order of fixtures

Fixtures are compared by number alone. Rounds that are known by a word and the rounds of 16, 32 and
64 teams have fixed numbers, and the number of any other round counts its teams. Only the group
stage has a number that a matchday can have, and only seven sizes of rounds give a number that
another round has. Apart from these, fixtures that compare equal are the same round.

## Main definitions

* `Fixture.IsKnockout`: the rounds that are played after the group stage.
* `Fixture.Clashes`: two rounds with the same number.
* `Fixture.Ranks`: how the fixtures of two texts compare.

## Main results

* `Fixture.IsKnockout.eq_or_clashes`: rounds with the same number.
* `Fixture.ranks`: fixtures that compare equal, and what comes after the matchdays.
-/

namespace Footage.Fixture

open Text

variable {a b text word : List Char} {n teams : Nat} {f g round other : Fixture}

/-- The rounds after the group stage that have a fixed number. -/
def knockouts : List Fixture :=
  [roundOf64, roundOf32, roundOf16, quarterFinal, semiFinal, playoff, final]

/-- A round after the group stage. -/
inductive IsKnockout (round : Fixture) : Prop
  | fixed (hfixed : round ∈ knockouts)
  | sized {teams : Nat} (hsized : roundOf? teams = some round)

/-- The sizes of rounds whose number is that of another round. -/
def clashes : List (Nat × Fixture) :=
  [(15360, roundOf64), (31744, roundOf32), (64512, roundOf16), (1047552, quarterFinal),
    (4193280, semiFinal), (8387584, playoff), (16776192, final)]

/-- A round of a size whose number is that of another round. -/
def Clashes (round other : Fixture) : Prop :=
  ∃ teams, (teams, other) ∈ clashes ∧ roundOf? teams = some round

/-- A text that is a number, alone or after some word. -/
def HasNumber (text : List Char) (n : Nat) : Prop :=
  ∃ word, IsNumbered text word n

/-- A fixture is sorted strictly before another one. -/
def Before (f g : Fixture) : Prop :=
  f.le g = true ∧ g.le f = false

/-! ## Numbers of fixtures -/

theorem sameRound_iff_number_eq : f.sameRound g = true ↔ f.number = g.number :=
  beq_iff_eq

theorem before_iff_number_lt : Before f g ↔ f.number < g.number := by
  rw [Before, le, le, decide_eq_true_eq, decide_eq_false_iff_not, UInt32.not_le]
  exact and_iff_right_of_imp UInt32.le_of_lt

theorem toNat_number_titled (hn : n < 1000) : (titled word n).number.toNat = n :=
  UInt32.toNat_ofNat_of_lt' (Nat.lt_trans hn (by decide))

theorem toNat_number_of_hasNumber (h : HasNumber text n) (hread : read? text = some f) :
    f.number.toNat = n := by
  obtain ⟨word, hnumbered⟩ := h
  rw [read?_of_isNumbered hnumbered, Option.some_inj] at hread
  rw [← hread, toNat_number_titled hnumbered.lt]

/-- A round without a fixed number has one that counts its teams. -/
theorem number_of_roundOf? (h : roundOf? teams = some round) :
    round ∈ knockouts ∨ round.number.toNat = roundBase + teams := by
  cases isRoundOf_of_roundOf? h with
  | sixteen => exact .inl (by decide)
  | thirtyTwo => exact .inl (by decide)
  | sixtyFour => exact .inl (by decide)
  | unlisted hfits => exact .inr (UInt32.toNat_ofNat_of_lt' hfits)

theorem IsKnockout.number_cases (h : IsKnockout round) : round ∈ knockouts ∨
    ∃ teams, roundOf? teams = some round ∧ round.number.toNat = roundBase + teams := by
  cases h with
  | fixed hfixed => exact .inl hfixed
  | sized hsized =>
    exact (number_of_roundOf? hsized).imp_right fun hnumber => ⟨_, hsized, hnumber⟩

theorem IsKnockout.le_number (h : IsKnockout round) : roundBase ≤ round.number.toNat := by
  have hnumbers : ∀ round ∈ knockouts, roundBase ≤ round.number.toNat := by decide
  obtain hfixed | ⟨teams, -, hnumber⟩ := h.number_cases
  · exact hnumbers round hfixed
  · omega

theorem IsKnockout.number_ne_groupStage (h : IsKnockout round) :
    groupStage.number ≠ round.number := by
  intro hnumber
  have hbase := h.le_number
  rw [← hnumber] at hbase
  exact absurd hbase (by decide)

/-! ## Rounds with the same number -/

theorem Clashes.number_eq (h : Clashes round other) : round.number = other.number := by
  have htable : ∀ entry ∈ clashes, (roundOf? entry.1).map number = some entry.2.number := by
    decide +kernel
  obtain ⟨teams, hmem, hround⟩ := h
  have hnumber := htable (teams, other) hmem
  rw [hround, Option.map_some, Option.some_inj] at hnumber
  exact hnumber

/-- Each fixed number is that of a round of one size. -/
theorem clashes_of_number_eq (hfixed : other ∈ knockouts) (hround : roundOf? teams = some round)
    (hteams : round.number.toNat = roundBase + teams) (h : round.number = other.number) :
    Clashes round other := by
  have htable : ∀ other ∈ knockouts, (other.number.toNat - roundBase, other) ∈ clashes := by decide
  have hsize : teams = other.number.toNat - roundBase := by rw [← h]; omega
  exact ⟨teams, hsize ▸ htable other hfixed, hround⟩

/-- Rounds with the same number are the same, or one of them has a fixed number that the size of
the other one gives. -/
theorem IsKnockout.eq_or_clashes (hf : IsKnockout f) (hg : IsKnockout g)
    (h : f.number = g.number) : f = g ∨ Clashes f g ∨ Clashes g f := by
  have hdistinct : ∀ f ∈ knockouts, ∀ g ∈ knockouts, f.number = g.number → f = g := by decide
  obtain hf | ⟨teams, hf, hteams⟩ := hf.number_cases <;>
    obtain hg | ⟨others, hg, hothers⟩ := hg.number_cases
  · exact .inl (hdistinct f hf g hg h)
  · exact .inr (.inr (clashes_of_number_eq hf hg hothers h.symm))
  · exact .inr (.inl (clashes_of_number_eq hg hf hteams h))
  · -- Numbers that count teams are equal for equal sizes only.
    have hsize : teams = others := by rw [h] at hteams; omega
    rw [hsize, hg, Option.some_inj] at hf
    exact .inl hf.symm

/-! ## Fixtures of texts -/

/-- What a text names is a number, the group stage, or a round after it. -/
theorem Names.hasNumber_or (h : Names text f) :
    (∃ n, HasNumber text n) ∨ f = groupStage ∨ IsKnockout f := by
  cases h with
  | numbered hnumbered => exact .inl ⟨_, _, hnumbered⟩
  | @known name _ _ hknown =>
    have hnamed : ∀ entry ∈ named, entry.2 = groupStage ∨ entry.2 ∈ knockouts := by decide
    exact .inr ((hnamed (name, f) hknown).imp_right .fixed)
  | sized _ hsized => exact .inr (.inr (.sized hsized))

/-- The fixtures of two texts compare equal for one of these reasons. -/
inductive SameRank (a b : List Char) (f g : Fixture) : Prop
  /-- Both texts are the same number. -/
  | numbers {n : Nat} (ha : HasNumber a n) (hb : HasNumber b n)
  /-- The fixtures have the same title. -/
  | title (htitle : f.title = g.title)
  /-- One is the matchday that has the number of the group stage. -/
  | groupStage (hclash : HasNumber a 256 ∧ g = groupStage ∨ f = groupStage ∧ HasNumber b 256)
  /-- One is a round whose size gives the number of the other. -/
  | clash (hclash : Clashes f g ∨ Clashes g f)

theorem SameRank.number_eq (h : SameRank a b f g) (ha : read? a = some f) (hb : read? b = some g) :
    f.number = g.number := by
  rw [← UInt32.toNat_inj]
  cases h with
  | numbers ha' hb' => rw [toNat_number_of_hasNumber ha' ha, toNat_number_of_hasNumber hb' hb]
  | title htitle =>
    -- The title alone tells what the fixture is.
    have hf := (names_of_read? ha).read?_title
    rw [htitle, (names_of_read? hb).read?_title, Option.some_inj] at hf
    rw [hf]
  | groupStage hclash =>
    obtain ⟨hnumber, rfl⟩ | ⟨rfl, hnumber⟩ := hclash
    · exact toNat_number_of_hasNumber hnumber ha
    · exact (toNat_number_of_hasNumber hnumber hb).symm
  | clash hclash =>
    obtain hclash | hclash := hclash
    · rw [hclash.number_eq]
    · rw [hclash.number_eq]

/-- A fixture with the number of a matchday is a matchday or the group stage. -/
theorem hasNumber_or_of_number_eq (hnumber : HasNumber a n) (ha : read? a = some f)
    (hb : read? b = some g) (h : f.number = g.number) :
    HasNumber b n ∨ n = 256 ∧ g = groupStage := by
  have hf := toNat_number_of_hasNumber hnumber ha
  rw [h] at hf
  obtain ⟨m, hm⟩ | rfl | hknockout := (names_of_read? hb).hasNumber_or
  · rw [toNat_number_of_hasNumber hm hb] at hf
    exact .inl (hf ▸ hm)
  · exact .inr ⟨hf.symm, rfl⟩
  · -- The numbers of later rounds start above those of all matchdays.
    obtain ⟨word, hnumbered⟩ := hnumber
    have hn := hnumbered.lt
    have hbase := hknockout.le_number
    rw [hf, roundBase] at hbase
    omega

theorem sameRank_of_number_eq (ha : read? a = some f) (hb : read? b = some g)
    (h : f.number = g.number) : SameRank a b f g := by
  obtain ⟨n, hn⟩ | hf := (names_of_read? ha).hasNumber_or
  · obtain hb' | ⟨rfl, hg⟩ := hasNumber_or_of_number_eq hn ha hb h
    · exact .numbers hn hb'
    · exact .groupStage (.inl ⟨hn, hg⟩)
  obtain ⟨n, hn⟩ | hg := (names_of_read? hb).hasNumber_or
  · obtain ha' | ⟨rfl, hf⟩ := hasNumber_or_of_number_eq hn hb ha h.symm
    · exact .numbers ha' hn
    · exact .groupStage (.inr ⟨hf, hn⟩)
  -- Neither is a matchday, and all rounds that are played later have larger numbers.
  obtain rfl | hf := hf <;> obtain rfl | hg := hg
  · exact .title rfl
  · exact absurd h hg.number_ne_groupStage
  · exact absurd h.symm hf.number_ne_groupStage
  · obtain rfl | hclash := hf.eq_or_clashes hg h
    · exact .title rfl
    · exact .clash hclash

/-- How the fixtures of two texts compare. -/
structure Ranks (a b : List Char) (f g : Fixture) : Prop where
  /-- They compare equal if they are the same, or if their numbers clash. -/
  sameRound_iff : f.sameRound g = true ↔ SameRank a b f g
  /-- A number is sorted before every round that comes after the group stage. -/
  before_knockout : ∀ n, HasNumber a n → ∀ round, IsKnockout round → Before f round
  /-- It is sorted before the group stage if it is less than the number of the group stage. -/
  before_groupStage_iff : ∀ n, HasNumber a n → (Before f groupStage ↔ n < 256)

/-- Fixtures that were read are compared by number, which tells them apart but for the clashes. -/
theorem ranks (ha : read? a = some f) (hb : read? b = some g) : Ranks a b f g where
  sameRound_iff := by
    rw [sameRound_iff_number_eq]
    exact ⟨sameRank_of_number_eq ha hb, fun h => h.number_eq ha hb⟩
  before_knockout := by
    intro n hn round hround
    have hnumber := toNat_number_of_hasNumber hn ha
    obtain ⟨word, hnumbered⟩ := hn
    have hlt := hnumbered.lt
    have hbase := hround.le_number
    rw [before_iff_number_lt, UInt32.lt_iff_toNat_lt, hnumber]
    exact Nat.lt_of_lt_of_le (Nat.lt_trans hlt (by decide)) hbase
  before_groupStage_iff := by
    intro n hn
    rw [before_iff_number_lt, UInt32.lt_iff_toNat_lt, toNat_number_of_hasNumber hn ha]
    exact Iff.rfl

/-- The number of the round of 15360 teams is that of the round of 64. -/
theorem roundOf15360_ranks : read? "Round of 15360".toList = some ⟨"Round of 15360", 16384⟩ ∧
    read? "Round of 64".toList = some roundOf64 ∧
    sameRound ⟨"Round of 15360", 16384⟩ roundOf64 = true := by
  have hlarge : read? "Round of 15360".toList = some ⟨"Round of 15360", 16384⟩ := by decide +kernel
  have hsmall : read? "Round of 64".toList = some roundOf64 := by decide +kernel
  have hclash : Clashes ⟨"Round of 15360", 16384⟩ roundOf64 := ⟨15360, by decide, by decide +kernel⟩
  exact ⟨hlarge, hsmall, (ranks hlarge hsmall).sameRound_iff.2 (.clash (.inl hclash))⟩

theorem not_hasNumber_groupStage : ¬HasNumber "Group Stage".toList n := by
  rintro ⟨word, hnumbered⟩
  have hread : read? "Group Stage".toList = some groupStage := by decide +kernel
  rw [read?_of_isNumbered hnumbered, Option.some_inj] at hread
  exact titled_ne_of_mem_named (show ("group", groupStage) ∈ named by decide) hread

/-- So fixtures with different titles compare equal though one of them is no number, and there are
numbers that are sorted after the group stage. -/
theorem matchdays_clash :
    (∃ a b f g, read? a = some f ∧ read? b = some g ∧ f.sameRound g = true ∧ f.title ≠ g.title ∧
      ¬∃ n, HasNumber a n ∧ HasNumber b n) ∧
    ∃ text n f, read? text = some f ∧ HasNumber text n ∧ Before groupStage f := by
  refine ⟨⟨"Matchday 256".toList, "Group Stage".toList, ⟨"Matchday 256", 256⟩, groupStage, ?_, ?_,
    by decide, by decide, ?_⟩, "300".toList, 300, ⟨"Matchday 300", 300⟩, ?_, ?_, ?_⟩
  · decide +kernel
  · decide +kernel
  · rintro ⟨n, -, hb⟩
    exact not_hasNumber_groupStage hb
  · decide +kernel
  · exact ⟨_, .alone (isNumeral_iff.2 (by decide +kernel))⟩
  · exact before_iff_number_lt.2 (by decide)

end Footage.Fixture
