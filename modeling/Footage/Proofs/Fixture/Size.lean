import Footage.Proofs.Fixture.Token

/-!
# Rounds that are known by their size

A round of any number of teams is read from its size. Since blanks, hyphens and underscores are left
out before the size is read, digits that come next in the text run on into it. So the text of a
round names the same round, whatever follows it, unless a digit comes next.

## Main definitions

* `Fixture.roundText`: the text of a round of some number of teams.
* `Fixture.nextDigits`: the digits that come next in a text.
* `Fixture.RunsOn`: what is read from the text of a round that other text follows.

## Main results

* `Fixture.eq_of_title_eq`: rounds of different sizes have different titles.
* `Fixture.read?_roundText_append`: the size that is read has the digits that come next.
* `Fixture.runsOn`: all of this together.
-/

namespace Footage.Fixture

open Text

variable {teams other : Nat} {digits rest form : List Char} {round : Fixture}

/-- The text of a round of a number of teams. -/
def roundText (teams : Nat) : List Char :=
  "Round of ".toList ++ decimal teams

theorem roundText_eq (teams : Nat) : roundText teams = "Round of ".toList ++ decimal teams := rfl

/-- Reads the size of a round. -/
def ofSize? (digits : List Char) : Option Fixture := do
  let teams ← readDigits? digits
  if teams < UInt32.size then roundOf? teams else none

/-- The digits that come next in a text, apart from blanks, hyphens and underscores. -/
def nextDigits (rest : List Char) : List Char :=
  (normalForm rest).takeWhile isDecimalDigit

/-! ## Rounds of a size -/

/-- What the rounds of a size are. Those of 16, 32 and 64 teams have places of their own. -/
inductive IsRoundOf : Nat → Fixture → Prop
  | sixteen : IsRoundOf 16 roundOf16
  | thirtyTwo : IsRoundOf 32 roundOf32
  | sixtyFour : IsRoundOf 64 roundOf64
  | unlisted {teams : Nat} (hfits : roundBase + teams < UInt32.size) :
      IsRoundOf teams ⟨String.ofList (roundText teams), .ofNat (roundBase + teams)⟩

theorem isRoundOf_of_roundOf? (h : roundOf? teams = some round) : IsRoundOf teams round := by
  rw [roundOf?] at h
  split_ifs at h with h16 h32 h64 hfits
  · cases h16
    cases h
    exact .sixteen
  · cases h32
    cases h
    exact .thirtyTwo
  · cases h64
    cases h
    exact .sixtyFour
  · cases h
    exact .unlisted hfits

theorem title_of_roundOf? (h : roundOf? teams = some round) :
    round.title = String.ofList (roundText teams) := by
  cases isRoundOf_of_roundOf? h with
  | sixteen => decide
  | thirtyTwo => decide
  | sixtyFour => decide
  | unlisted => rfl

theorem lt_of_roundOf? (h : roundOf? teams = some round) : teams < UInt32.size := by
  cases isRoundOf_of_roundOf? h with
  | sixteen => decide
  | thirtyTwo => decide
  | sixtyFour => decide
  | unlisted hfits => exact Nat.lt_of_le_of_lt (Nat.le_add_left _ _) hfits

theorem exists_roundOf? (h : roundBase + teams < UInt32.size) :
    ∃ round, roundOf? teams = some round := by
  rw [roundOf?]
  split_ifs <;> exact ⟨_, rfl⟩

/-- Rounds of different sizes have different titles. -/
theorem eq_of_title_eq {another : Fixture} (h : roundOf? teams = some round)
    (hother : roundOf? other = some another) (htitle : round.title = another.title) :
    teams = other := by
  have htext : roundText teams = roundText other := by
    rw [← String.ofList_inj, ← title_of_roundOf? h, htitle, title_of_roundOf? hother]
  have hdigits : decimal teams = decimal other := (List.append_right_inj _).1 htext
  rw [← digitsValue_decimal teams, hdigits, digitsValue_decimal]

/-- The size that is read from digits is the number that they denote. -/
theorem ofSize?_eq_some_iff (h : roundOf? teams = some round) : ofSize? digits = some round ↔
    digits ≠ [] ∧ (∀ c ∈ digits, c.isDigit = true) ∧ digitsValue digits = teams := by
  rw [ofSize?, Option.bind_eq_bind, Option.bind_eq_some_iff]
  constructor
  · rintro ⟨other, hread, hother⟩
    rw [Option.ite_none_right_eq_some] at hother
    rw [readDigits?, Option.ite_none_right_eq_some, Bool.and_eq_true, List.all_eq_true] at hread
    obtain ⟨⟨hne, hdigits⟩, hvalue⟩ := hread
    refine ⟨by simpa using hne, hdigits, ?_⟩
    rw [Option.some.inj hvalue, eq_of_title_eq hother.2 h rfl]
  · rintro ⟨hne, hdigits, rfl⟩
    have hall : digits.all Char.isDigit = true := List.all_eq_true.2 hdigits
    exact ⟨digitsValue digits, by simp [readDigits?, hne, hall],
      by rw [if_pos (lt_of_roundOf? h), h]⟩

/-- A text that is read by its size names a round of this size. -/
theorem exists_roundOf?_of_readRound? (h : readRound? form = some round) :
    ∃ teams, roundOf? teams = some round := by
  obtain ⟨digits, -, hsize⟩ := Option.bind_eq_some_iff.1 h
  obtain ⟨teams, -, hround⟩ := Option.bind_eq_some_iff.1 hsize
  exact ⟨teams, (Option.ite_none_right_eq_some.1 hround).2⟩

/-! ## The texts of rounds -/

theorem normalForm_decimal (n : Nat) : normalForm (decimal n) = decimal n := by
  have hkept : (decimal n).filter (fun c => !isBlank c && c ≠ '-' && c ≠ '_') = decimal n := by
    rw [List.filter_eq_self]
    intro c hc
    have hrange := toNat_of_isDigit (isDigit_of_mem_decimal hc)
    have hminus : c ≠ '-' := by rintro rfl; exact absurd hrange (by decide)
    have hline : c ≠ '_' := by rintro rfl; exact absurd hrange (by decide)
    simp [isBlank_of_isDigit (isDigit_of_mem_decimal hc), hminus, hline]
  have hsmall : ∀ c ∈ decimal n, lowercaseChar c = [c] := by
    intro c hc
    have hrange := toNat_of_isDigit (isDigit_of_mem_decimal hc)
    rw [lowercaseChar, if_neg (by omega), lowercaseRuns, mapCase,
      if_pos (show c.toNat < 0x41 by omega), Char.ofNat_toNat]
  rw [normalForm, hkept, lowercase, List.flatMap_congr hsmall, List.flatMap_singleton']

theorem normalForm_roundText (teams : Nat) :
    normalForm (roundText teams) = "roundof".toList ++ decimal teams := by
  have hwords : normalForm "Round of ".toList = "roundof".toList := by decide +kernel
  rw [roundText_eq, normalForm_append, hwords, normalForm_decimal]

/-- The known rounds have words with a letter that is not in those before a size. -/
theorem namesNone_roundText (teams : Nat) : NamesNone (normalForm (roundText teams)) := by
  have hletter : ∀ entry ∈ named,
      entry.1.toList.all (fun c => c ∈ "roundof".toList || c.isDigit) = false := by decide
  intro entry hentry hword
  have hother := hletter entry hentry
  rw [List.all_eq_false] at hother
  obtain ⟨c, hc, hother⟩ := hother
  have hmem := hword.subset hc
  rw [normalForm_roundText, List.mem_append] at hmem
  exact hother (by simpa using hmem.imp_right isDigit_of_mem_decimal)

theorem trim_roundText_append (teams : Nat) (rest : List Char) :
    trim (roundText teams ++ rest) = roundText teams ++ trimEnd rest := by
  have hlast : ∀ c ∈ (roundText teams).getLast?, isBlank c = false := by
    intro c hc
    rw [roundText_eq, List.getLast?_append_of_ne_nil _ (decimal_ne_nil teams)] at hc
    exact isBlank_of_isDigit (isDigit_of_mem_decimal (List.mem_of_getLast? hc))
  exact trim_append (by simp [roundText_eq]) (by simp [roundText_eq]; decide) hlast rest

/-- The text of a round is no number, whatever follows it. -/
theorem unnumbered_roundText_append (teams : Nat) (rest : List Char) :
    Unnumbered (roundText teams ++ rest) := by
  intro word n h
  have hsplit : roundText teams ++ trimEnd rest =
      "Round".toList ++ ' ' :: ("of ".toList ++ decimal teams ++ trimEnd rest) := by
    simp [roundText_eq]
  cases h with
  | alone hnumber =>
    rw [trim_roundText_append, hsplit] at hnumber
    exact absurd (hnumber.isDigit ' ' (by simp)) (by decide)
  | titled hword hnumber htext =>
    -- The word would be the first one, and the number what comes after it.
    have hround : IsWord "Round".toList := isWord_iff.2 (by decide +kernel)
    rw [trim_roundText_append, hsplit] at htext
    have htail := congrArg (List.dropWhile (· ≠ ' ')) htext
    rw [hround.dropWhile_append, hword.dropWhile_append, List.cons_inj_right] at htail
    rw [← htail] at hnumber
    exact absurd (hnumber.isDigit 'o' (by simp)) (by decide)

/-! ## Digits that run on -/

theorem sizeIn?_of_sizeAtStart? (h : sizeAtStart? form = some digits) :
    sizeIn? form = some digits := by
  cases form with
  | nil => cases h
  | cons c rest =>
    rw [sizeIn?, h]
    rfl

/-- The size at the start of a text goes on as long as there are digits. -/
theorem sizeIn?_round (teams : Nat) (form : List Char) :
    sizeIn? ("roundof".toList ++ decimal teams ++ form) =
      some (decimal teams ++ form.takeWhile isDecimalDigit) := by
  have hdigits : (decimal teams ++ form).takeWhile isDecimalDigit =
      decimal teams ++ form.takeWhile isDecimalDigit :=
    List.takeWhile_append_of_pos fun c hc => isDecimalDigit_of_isDigit (isDigit_of_mem_decimal hc)
  have hsplit : "roundof".toList ++ decimal teams ++ form =
      "round".toList ++ ("of".toList ++ (decimal teams ++ form)) := by
    simp
  apply sizeIn?_of_sizeAtStart?
  rw [hsplit, sizeAtStart?, after?_append, Option.bind_eq_bind, Option.bind_some]
  dsimp only
  rw [after?_append, Option.bind_some, hdigits]
  simp [decimal_ne_nil]

/-- The digits that come after the text of a round run on into its size. -/
theorem read?_roundText_append (h : NamesNone (normalForm (roundText teams ++ rest))) :
    read? (roundText teams ++ rest) = ofSize? (decimal teams ++ nextDigits rest) := by
  rw [read?_of_unnumbered (unnumbered_roundText_append teams rest), namedIn?_eq_none_iff.2 h,
    normalForm_append, normalForm_roundText, readRound?, sizeIn?_round]
  rfl

/-- With digits added, a size stays the same only if it is zero and the digits are zeros. -/
theorem ofSize?_decimal_append_iff (h : roundOf? teams = some round) :
    ofSize? (decimal teams ++ digits) = some round ↔
      digits = [] ∨ teams = 0 ∧ ∀ c ∈ digits, c = '0' := by
  rw [ofSize?_eq_some_iff h, digitsValue_append, digitsValue_decimal, List.forall_mem_append]
  constructor
  · rintro ⟨-, ⟨-, hdigits⟩, hvalue⟩
    by_cases hne : digits = []
    · exact .inl hne
    -- One digit more makes the number at least ten times as large.
    have hpow : 10 ≤ 10 ^ digits.length :=
      Nat.le_self_pow (List.length_eq_zero_iff.not.2 hne) 10
    have hlarge : 10 * teams ≤ 10 ^ digits.length * teams := Nat.mul_le_mul_right teams hpow
    have hzero : teams = 0 := by omega
    rw [hzero, Nat.mul_zero, Nat.zero_add] at hvalue
    exact .inr ⟨hzero, (digitsValue_eq_zero_iff hdigits).1 hvalue⟩
  · have hdecimal : ∀ c ∈ decimal teams, c.isDigit = true := fun _ => isDigit_of_mem_decimal
    rintro (rfl | ⟨rfl, hzeros⟩)
    · simpa [decimal_ne_nil, digitsValue] using hdecimal
    · have hdigits : ∀ c ∈ digits, c.isDigit = true := fun c hc => by rw [hzeros c hc]; rfl
      rw [Nat.mul_zero, Nat.zero_add, digitsValue_eq_zero_iff hdigits]
      exact ⟨by simp [decimal_ne_nil], ⟨hdecimal, hdigits⟩, hzeros⟩

/-- The text of a round names this round. -/
theorem read?_roundText (h : roundOf? teams = some round) :
    read? (roundText teams) = some round := by
  have hnames : NamesNone (normalForm (roundText teams ++ [])) := by
    rw [List.append_nil]
    exact namesNone_roundText teams
  rw [← List.append_nil (roundText teams), read?_roundText_append hnames]
  exact (ofSize?_decimal_append_iff h).2 (.inl rfl)

/-- What is read from the text of a round that a space and other text follow. -/
structure RunsOn (teams : Nat) (rest : List Char) : Prop where
  /-- The text alone names the round. -/
  alone : ∃ round, roundOf? teams = some round ∧ read? (roundText teams) = some round
  /-- Followed by other text, it names the round whose size has the digits that come next. -/
  followed : read? (roundText teams ++ ' ' :: rest) = ofSize? (decimal teams ++ nextDigits rest)
  /-- This is the same round exactly if no digit comes next, or if nothing but zeros are added to a
  size of zero. -/
  same_iff : read? (roundText teams ++ ' ' :: rest) = read? (roundText teams) ↔
    nextDigits rest = [] ∨ teams = 0 ∧ ∀ c ∈ nextDigits rest, c = '0'

/-- The digits that follow the text of a round run on into its size, even after a space. -/
theorem runsOn (hfits : roundBase + teams < UInt32.size)
    (hnames : NamesNone (normalForm (roundText teams ++ ' ' :: rest))) : RunsOn teams rest := by
  obtain ⟨round, hround⟩ := exists_roundOf? hfits
  have hspace : normalForm (' ' :: rest) = normalForm rest := by
    simp [normalForm, isBlank]
  have hfollowed : read? (roundText teams ++ ' ' :: rest) =
      ofSize? (decimal teams ++ nextDigits rest) := by
    rw [read?_roundText_append hnames, nextDigits, hspace, nextDigits]
  refine ⟨⟨round, hround, read?_roundText hround⟩, hfollowed, ?_⟩
  rw [hfollowed, read?_roundText hround]
  exact ofSize?_decimal_append_iff hround

/-- Other text that starts with a digit and holds no word of a known round. -/
def firstLeg : List Char := "1st leg".toList

theorem namesNone_firstLeg :
    NamesNone (normalForm firstLeg) ∧
      NamesNone (normalForm (roundText 16 ++ ' ' :: firstLeg)) := by
  rw [← namedIn?_eq_none_iff, ← namedIn?_eq_none_iff]
  decide +kernel

/-- The first leg of the round of 16 teams is read as the round of 161. -/
theorem firstLeg_runsOn : roundBase + 16 < UInt32.size ∧
    NamesNone (normalForm (roundText 16 ++ ' ' :: firstLeg)) ∧
    read? (roundText 16 ++ ' ' :: firstLeg) = ofSize? "161".toList ∧
    read? (roundText 16 ++ ' ' :: firstLeg) ≠ read? (roundText 16) := by
  have hfits : roundBase + 16 < UInt32.size := by decide
  have hrunsOn := runsOn hfits namesNone_firstLeg.2
  have hdigits : nextDigits firstLeg = ['1'] := by decide +kernel
  refine ⟨hfits, namesNone_firstLeg.2, ?_, ?_⟩
  · rw [hrunsOn.followed, hdigits]
    rfl
  · rw [Ne, hrunsOn.same_iff, hdigits]
    decide

/-- So a round does not keep its size whatever follows it. -/
theorem firstLeg_resized : ∃ teams rest, roundBase + teams < UInt32.size ∧
    NamesNone (normalForm rest) ∧ NamesNone (normalForm (roundText teams ++ ' ' :: rest)) ∧
    read? (roundText teams) = some roundOf16 ∧
    read? (roundText teams ++ ' ' :: rest) = some ⟨"Round of 161", 1185⟩ := by
  refine ⟨16, firstLeg, by decide, namesNone_firstLeg.1, namesNone_firstLeg.2, ?_, ?_⟩
  · decide +kernel
  · decide +kernel

end Footage.Fixture
