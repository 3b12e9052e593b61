import Footage.Proofs.Kinds
import Footage.Proofs.Outcome
import Footage.Proofs.Trimming
import Mathlib.Algebra.Order.BigOperators.Group.List
import Mathlib.Algebra.Order.Group.Nat

/-!
# Numbers in fields

Bitrates, sizes of files and frame rates are read off the digits at the start of a text: all of
them, and nothing of what follows. The number of channels is the sum of the components of a layout.
A number that does not fit its type is never cut to it: the text is rejected.

## Main definitions

* `Text.BeginsWithNumber`: the number at the start of a text.
* `ValueParser.IsCount` and `ValueParser.IsPrintedCount`: the components of a layout.
* `ValueParser.ReadsIntegers` and `ValueParser.SumsCounts`: exact parsers.

## Main results

* `ValueParser.integer_readsIntegers`: the number at the start of a text.
* `ValueParser.channels_sumsCounts`: the sum of the components.
* `ValueParser.standard_readsNumbers`: the fields that hold numbers.
-/

namespace Footage

open Text

/-! ## The number at the start of a text -/

namespace Text

variable {text rest : List Char} {n : Nat}

/-- A text begins with digits that denote a number, and no digit follows them. -/
def BeginsWithNumber (text : List Char) (n : Nat) : Prop :=
  ∃ digits rest, text = digits ++ rest ∧ Denotes digits n ∧ NoDigit rest

theorem noDigit_dropWhile (text : List Char) : NoDigit (text.dropWhile Char.isDigit) := by
  intro c hc
  have hhead := List.head?_dropWhile_not Char.isDigit text
  rw [Option.mem_def.1 hc] at hhead
  exact hhead

/-- The digits at the start of a text are read as the number with which it begins. -/
theorem readDigits?_takeWhile_eq_some_iff :
    readDigits? (text.takeWhile Char.isDigit) = some n ↔ BeginsWithNumber text n := by
  rw [readDigits?_eq_some_iff]
  constructor
  · intro hdigits
    exact ⟨_, _, List.takeWhile_append_dropWhile.symm, hdigits, noDigit_dropWhile text⟩
  · rintro ⟨digits, rest, rfl, hdigits, hrest⟩
    rwa [takeWhile_digits_append hdigits.isDigit hrest]

/-- A printed number may have zeros before it and anything but a digit behind it. -/
theorem beginsWithNumber_printed (zeros n : Nat) (hrest : NoDigit rest) :
    BeginsWithNumber (List.replicate zeros '0' ++ decimal n ++ rest) n :=
  ⟨_, rest, rfl, denotes_iff_exists_zeros.2 ⟨zeros, rfl⟩, hrest⟩

end Text

namespace ValueParser

variable {raw : String} {value : Value} {n : Nat} {part : List Char} {counts : List Nat}
  {total : UInt32}

theorem integer_eq_some_iff : integer raw = some value ↔
    ∃ n : UInt64, BeginsWithNumber (trim raw.toList) n.toNat ∧ value = .integer n := by
  simp only [integer, Option.bind_eq_bind, Option.bind_eq_some_iff,
    readDigits?_takeWhile_eq_some_iff, Option.ite_none_right_eq_some, Option.some_inj]
  -- The numbers below the limit are the values of words of 64 bits.
  constructor
  · rintro ⟨n, hn, hlt, rfl⟩
    exact ⟨.ofNat n, by rwa [UInt64.toNat_ofNat_of_lt' hlt], rfl⟩
  · rintro ⟨n, hn, rfl⟩
    exact ⟨n.toNat, hn, n.toNat_lt_size, by rw [UInt64.ofNat_toNat]⟩

/-- A parser that reads the number at the start of a text. -/
structure ReadsIntegers (parser : ValueParser) : Prop where
  /-- It reads a number below `2 ^ 64` from exactly the texts that begin with it once trimmed. -/
  some_iff : ∀ raw value, parser raw = some value ↔
    ∃ n : UInt64, BeginsWithNumber (trim raw.toList) n.toNat ∧ value = .integer n
  /-- It rejects all others: those that begin with no number or with one that is too large. -/
  none_iff : ∀ raw, parser raw = none ↔ ∀ n, BeginsWithNumber (trim raw.toList) n → 2 ^ 64 ≤ n
  /-- A printed number is read back, whatever zeros stand before it and whatever follows it. -/
  printed : ∀ raw zeros (n : UInt64) rest, NoDigit rest →
    trim raw.toList = List.replicate zeros '0' ++ decimal n.toNat ++ rest →
      parser raw = some (.integer n)

theorem integer_readsIntegers : ReadsIntegers integer where
  some_iff _ _ := integer_eq_some_iff
  none_iff raw := by
    rw [Option.eq_none_iff_forall_ne_some]
    constructor
    · intro h n hn
      -- A number that is not too large would have been read.
      by_contra hlt
      have hsize : n < UInt64.size := Nat.lt_of_not_le hlt
      exact h _ (integer_eq_some_iff.2 ⟨.ofNat n, by rwa [UInt64.toNat_ofNat_of_lt' hsize], rfl⟩)
    · intro h value hvalue
      obtain ⟨n, hn, -⟩ := integer_eq_some_iff.1 hvalue
      exact absurd n.toNat_lt (Nat.not_lt.2 (h _ hn))
  printed raw zeros n rest hrest htext :=
    integer_eq_some_iff.2 ⟨n, htext ▸ beginsWithNumber_printed zeros n.toNat hrest, rfl⟩

/-- Neither the zeros nor the letters matter. -/
example : integer " 0050fps" = some (.integer 50) := by decide +kernel

/-! ## Channels -/

/-- A component of a layout: a number of 32 bits, perhaps with blanks around it. -/
def IsCount (part : List Char) (n : Nat) : Prop :=
  IsUnsigned (trim part) n ∧ n < 2 ^ 32

/-- A number in decimal, perhaps with blanks around it. -/
def IsPrintedCount (part : List Char) (n : Nat) : Prop :=
  ∃ before after, IsBlankRun before ∧ IsBlankRun after ∧ part = before ++ decimal n ++ after

theorem IsPrintedCount.isCount (h : IsPrintedCount part n) (hlt : n < 2 ^ 32) : IsCount part n := by
  obtain ⟨before, after, hbefore, hafter, rfl⟩ := h
  rw [IsCount, trim_pad hbefore hafter, trim_decimal]
  exact ⟨.plain (denotes_decimal n), hlt⟩

/-- The only separators are those between the components. -/
theorem IsPrintedCount.point_notMem (h : IsPrintedCount part n) : '.' ∉ part := by
  obtain ⟨before, after, hbefore, hafter, rfl⟩ := h
  intro hmem
  rcases List.mem_append.1 hmem with hfront | hafter'
  · rcases List.mem_append.1 hfront with hbefore' | hdecimal
    · exact absurd (hbefore '.' hbefore') (by decide)
    · exact absurd (isDigit_of_mem_decimal hdecimal) (by decide)
  · exact absurd (hafter '.' hafter') (by decide)

/-- The components are those of the text as it stands: blanks around the text are blanks around the
first or the last of them. -/
theorem mapM_components_eq_some_iff :
    (((trim raw.toList).splitOn '.').mapM fun part => readUnsigned? UInt32.size (trim part)) =
      some counts ↔ List.Forall₂ IsCount (raw.toList.splitOn '.') counts := by
  -- Only the trimmed components matter, and these are the same.
  have htrim : ∀ parts : List (List Char), List.Forall₂ IsCount parts counts ↔
      List.Forall₂ (fun part n => IsUnsigned part n ∧ n < 2 ^ 32) (parts.map trim) counts := by
    intro parts
    rw [List.forall₂_map_left_iff]
    rfl
  simp only [Option.mapM_eq_some_iff, readUnsigned?_eq_some_iff]
  rw [htrim, ← map_trim_splitOn_trim (by decide), ← htrim]
  rfl

theorem channels_of_counts (hcounts : List.Forall₂ IsCount (raw.toList.splitOn '.') counts)
    (hsum : counts.sum = total.toNat) : channels raw = some (.channels total) := by
  have hfold : counts.foldr (· + ·) 0 = total.toNat := List.sum_eq_foldr.symm.trans hsum
  simp [channels, mapM_components_eq_some_iff.2 hcounts, hfold]

theorem channels_eq_none (hpart : part ∈ raw.toList.splitOn '.') (h : ∀ n, ¬IsCount part n) :
    channels raw = none := by
  have hnone : (((trim raw.toList).splitOn '.').mapM fun part =>
      readUnsigned? UInt32.size (trim part)) = none := by
    refine Option.eq_none_iff_forall_ne_some.2 fun counts hcounts => ?_
    -- If all components were read, this one would be a number, too.
    have hforall := mapM_components_eq_some_iff.1 hcounts
    obtain ⟨i, hi, rfl⟩ := List.getElem_of_mem hpart
    exact h _ (hforall.get hi (hforall.length_eq ▸ hi))
  simp [channels, hnone]

/-- A parser that adds the components of a layout. -/
structure SumsCounts (parser : ValueParser) : Prop where
  /-- The value is the sum of the components, if it fits 32 bits. -/
  sums : ∀ raw counts (total : UInt32), List.Forall₂ IsCount (raw.toList.splitOn '.') counts →
    counts.sum = total.toNat → parser raw = some (.channels total)
  /-- In particular, the components may be printed and joined by points. -/
  printed : ∀ parts counts (total : UInt32), counts ≠ [] →
    List.Forall₂ IsPrintedCount parts counts → counts.sum = total.toNat →
      parser (String.ofList (['.'].intercalate parts)) = some (.channels total)
  /-- A component that is no number of 32 bits fails the whole text, whatever stands before it. -/
  rejects : ∀ raw, ∀ part ∈ raw.toList.splitOn '.', (∀ n, ¬IsCount part n) → parser raw = none

theorem channels_sumsCounts : SumsCounts channels where
  sums _ _ _ := channels_of_counts
  printed parts counts total hne hparts hsum := by
    have hpoint : ∀ part ∈ parts, '.' ∉ part := fun part hpart => by
      obtain ⟨i, hi, rfl⟩ := List.getElem_of_mem hpart
      exact (hparts.get hi (hparts.length_eq ▸ hi)).point_notMem
    have hsplit : (['.'].intercalate parts).splitOn '.' = parts :=
      List.splitOn_intercalate _ hpoint fun h => hne (by simpa [h] using hparts)
    -- No component exceeds the sum of all.
    have hcounts : List.Forall₂ IsCount parts counts := by
      refine List.forall₂_iff_get.2 ⟨hparts.length_eq, fun i hi hi' => ?_⟩
      have hle : counts[i] ≤ counts.sum := List.le_sum_of_mem (List.getElem_mem hi')
      exact (hparts.get hi hi').isCount (hle.trans_lt (hsum ▸ total.toNat_lt))
    have hraw : (String.ofList (['.'].intercalate parts)).toList.splitOn '.' = parts := by
      rw [String.toList_ofList, hsplit]
    exact channels_of_counts (hraw.symm ▸ hcounts) hsum
  rejects _ _ := channels_eq_none

example : channels " 5 .1" = some (.channels 6) := by decide +kernel

/-! ## Fields -/

/-- The standard parsers of the fields that hold numbers read them exactly or reject the text. -/
theorem standard_readsNumbers :
    (∀ field ∈ [Field.videoBitrate, .audioBitrate, .filesize, .framerate],
      ∃ parser, Registry.standard.parser? field = some parser ∧ ReadsIntegers parser) ∧
    ∃ parser, Registry.standard.parser? .audioChannels = some parser ∧ SumsCounts parser := by
  refine ⟨fun field hfield => ⟨_, Registry.parser?_standard field, ?_⟩,
    ⟨_, Registry.parser?_standard .audioChannels, channels_sumsCounts⟩⟩
  -- All four fields are of one kind, and so have one parser.
  have hkind : field.kind = .integer := by
    revert field
    decide
  rw [ofField, hkind]
  exact integer_readsIntegers

end ValueParser

end Footage
