import Footage.Proofs.Address.Bytes
import Footage.Url.Basic
import Mathlib.Data.List.Basic

/-!
# Pairs of queries

Pairs that are written into the query of a URL are read off it again, whatever their keys and values
hold.

## Main results

* `Url.decodeComponent_encodeComponent`: a key or a value is read back.
* `Url.decodePairs_encodePairs`: a list of pairs is read back.
* `Url.queryPairs_withQueryPairs`: the pairs of a URL that was given a query of pairs.
-/

namespace Footage.Url

open Text

/-- The character that a character of a form stands for: a plus sign stands for a space. -/
def plain (c : Char) : Char :=
  if c = '+' then ' ' else c

/-- The characters of keys and values that are written by their bytes: spaces have a sign of their
own. -/
def inComponentSet (c : Char) : Bool :=
  inFormSet c && c ≠ ' '

theorem map_plain_percentBytes (bytes : List UInt8) :
    (bytes.flatMap percentByte).map plain = bytes.flatMap percentByte := by
  refine (List.map_congr_left fun c hc => ?_).trans (List.map_id _)
  obtain ⟨b, -, hbyte⟩ := List.mem_flatMap.1 hc
  rw [plain, if_neg]
  · rfl
  · -- The plus sign is neither a percent sign nor a digit.
    rintro rfl
    have hplus := isHexDigit_of_mem_percentByte hbyte
    revert hplus
    decide

/-- Apart from the plus signs for spaces, a key or a value is encoded like any other text. -/
theorem map_plain_encodeComponent (text : String) :
    (encodeComponent text).map plain = percentEncode inComponentSet text.toList := by
  rw [encodeComponent, percentEncode, List.map_flatMap]
  congr 1
  funext c
  -- A space becomes a plus sign and then itself again. No other character is left as a plus sign.
  by_cases hspace : c = ' '
  · subst hspace
    decide
  rw [if_neg hspace]
  by_cases hset : inFormSet c = true
  · rw [if_pos hset, if_pos (by simp [inComponentSet, hset, hspace]), map_plain_percentBytes]
  · have hplus : c ≠ '+' := by
      rintro rfl
      exact hset (by decide)
    rw [if_neg hset, if_neg (by simp [inComponentSet, hset]), List.map_singleton, plain,
      if_neg hplus]

/-- A key or a value is read back. -/
theorem decodeComponent_encodeComponent (text : String) :
    decodeComponent (encodeComponent text) = text := by
  have hmap := map_plain_encodeComponent text
  have hdecode := percentDecode_percentEncode inComponentSet (by decide) text.toList
  rw [decodeComponent]
  change String.ofList (decodeUtf8 (percentDecode ((encodeComponent text).map plain))) = text
  rw [hmap, hdecode, decodeUtf8_encodeUtf8, String.ofList_toList]

/-- The signs that separate pairs, and keys from values, are encoded where they stand for
themselves. -/
theorem ne_separator_of_mem_encodeComponent {text : String} {c : Char}
    (h : c ∈ encodeComponent text) : c ≠ '&' ∧ c ≠ '=' := by
  have hmem : plain c ∈ percentEncode inComponentSet text.toList := by
    rw [← map_plain_encodeComponent]
    exact List.mem_map_of_mem h
  have hcases : plain c = '%' ∨ isHexDigit (plain c) = true ∨ inComponentSet (plain c) = false :=
    (mem_percentEncode hmem).imp_right (.imp_right And.right)
  constructor
  · rintro rfl
    exact absurd hcases (by decide)
  · rintro rfl
    exact absurd hcases (by decide)

/-- A pair is read back. -/
theorem decodePair_encodePair (pair : Pair) : decodePair (encodePair pair) = pair := by
  have hkey : ∀ c ∈ encodeComponent pair.1, decide (c ≠ '=') = true := fun c hc =>
    decide_eq_true (ne_separator_of_mem_encodeComponent hc).2
  rw [decodePair, encodePair, List.takeWhile_append_of_pos hkey, List.dropWhile_append_of_pos hkey]
  simp [decodeComponent_encodeComponent]

/-- Pairs are read back. -/
theorem decodePairs_encodePairs (pairs : List Pair) : decodePairs (encodePairs pairs) = pairs := by
  cases pairs with
  | nil => decide
  | cons first rest =>
    have hpiece : ∀ text ∈ (first :: rest).map encodePair, '&' ∉ text := by
      intro text htext hmem
      obtain ⟨pair, -, rfl⟩ := List.mem_map.1 htext
      rw [encodePair, List.mem_append, List.mem_cons] at hmem
      rcases hmem with hkey | heq | hvalue
      · exact (ne_separator_of_mem_encodeComponent hkey).1 rfl
      · exact absurd heq (by decide)
      · exact (ne_separator_of_mem_encodeComponent hvalue).1 rfl
    -- No piece is dropped, because each has its equals sign.
    have hfilter : ((first :: rest).map encodePair).filter (fun text => !text.isEmpty) =
        (first :: rest).map encodePair := by
      refine List.filter_eq_self.2 fun text htext => ?_
      obtain ⟨pair, -, rfl⟩ := List.mem_map.1 htext
      simp [encodePair]
    rw [decodePairs, encodePairs, List.splitOn_intercalate _ hpiece (by simp), hfilter,
      List.map_map]
    exact (List.map_congr_left fun pair _ => decodePair_encodePair pair).trans (List.map_id _)

/-- The pairs of a URL that was given a query of pairs. -/
@[simp]
theorem queryPairs_withQueryPairs (url : Url) (pairs : List Pair) :
    (url.withQueryPairs pairs).queryPairs = pairs := by
  rw [queryPairs, withQueryPairs, Option.getD_some, String.toList_ofList, decodePairs_encodePairs]

end Footage.Url
