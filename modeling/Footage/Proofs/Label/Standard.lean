import Footage.Kit.Source
import Mathlib.Data.List.Forall2

/-!
# The standard labels of parts

What the pattern of labels in kits that give none is compiled to. The letters of the labels stand
for all characters that differ from them in case only. Of the characters with more than one case
these are few, if one of them is ASCII.

## Main definitions

* `CharSet.asciiFoldPairs`: the characters with an ASCII character of another case.
* `Pattern.standardLabel`: the compiled pattern.

## Main results

* `CharSet.closeCase_of_isAscii`: the characters that differ from ASCII characters in case only.
* `Pattern.ofText?_standardPartLabel`: the standard pattern compiles.
* `SourceKit.compile_none`: kits that give no pattern of labels.
-/

namespace Footage

open Text Pattern

namespace Pattern.CharSet

/-! ## Cases of ASCII characters -/

/-- The characters that fold to another character, if either is ASCII: the small letters, the long
s and the sign for kelvin. -/
def asciiFoldPairs : List (Nat × Nat) :=
  (List.range 26).map (fun i => (0x61 + i, 0x41 + i)) ++ [(0x17F, 0x53), (0x212A, 0x4B)]

theorem filter_caseFoldPairs :
    caseFoldPairs.filter (fun (n, least) => n < 128 || least < 128) = asciiFoldPairs := by
  decide +kernel

/-- The least characters of the classes that a set meets, by some pairs of a character with the
one that it folds to. -/
def leastsBy (pairs : List (Nat × Nat)) (set : CharSet) : CharSet :=
  ofRanges <| pairs.filterMap fun (n, least) =>
    if set.covers n || set.covers least then some (least, least) else none

/-- The characters that fold into a set, by some pairs. -/
def othersBy (pairs : List (Nat × Nat)) (leasts : CharSet) : CharSet :=
  pairs.filterMap fun (n, least) => if leasts.covers least then some (n, n) else none

/-- The set with every character added that differs from one of its characters only in case, by
some pairs. -/
def closeCaseBy (pairs : List (Nat × Nat)) (set : CharSet) : CharSet :=
  union (union set (leastsBy pairs set)) (othersBy pairs (leastsBy pairs set))

theorem isAscii_iff {set : CharSet} : set.isAscii = true ↔ ∀ range ∈ set, range.2 < 128 := by
  simp [isAscii]

theorem lt_of_covers {set : CharSet} {n : Nat} (hset : set.isAscii = true)
    (h : set.covers n = true) : n < 128 := by
  induction set with
  | nil => cases h
  | cons range set ih =>
    obtain ⟨hlast, hrest⟩ := List.forall_mem_cons.1 (isAscii_iff.1 hset)
    simp only [CodeRanges.covers] at h
    split_ifs at h
    rw [Bool.or_eq_true, decide_eq_true_eq] at h
    obtain hin | hin := h
    · omega
    · exact ih (isAscii_iff.2 hrest) hin

theorem isAscii_insert {set : CharSet} {low high : Nat} (hset : set.isAscii = true)
    (hhigh : high < 128) : (insert low high set).isAscii = true := by
  induction set generalizing low high with
  | nil => simpa [insert, isAscii] using hhigh
  | cons range set ih =>
    obtain ⟨hlast, hrest⟩ := List.forall_mem_cons.1 (isAscii_iff.1 hset)
    have hrest' : isAscii set = true := isAscii_iff.2 hrest
    simp only [insert]
    -- The range goes before the first one, after it, or is joined with it and goes on.
    split_ifs
    · exact isAscii_iff.2 (List.forall_mem_cons.2 ⟨hhigh, isAscii_iff.1 hset⟩)
    · exact isAscii_iff.2 (List.forall_mem_cons.2 ⟨hlast, isAscii_iff.1 (ih hrest' hhigh)⟩)
    · exact ih hrest' (Nat.max_lt.2 ⟨hhigh, hlast⟩)

theorem isAscii_ofRanges {ranges : List (Nat × Nat)} (h : ∀ range ∈ ranges, range.2 < 128) :
    (ofRanges ranges).isAscii = true := by
  -- The ranges are added to a set that holds those before them.
  have hfold : ∀ set : CharSet, set.isAscii = true →
      isAscii (ranges.foldl (fun set (first, last) => insert first last set) set) = true := by
    induction ranges with
    | nil => exact fun set hset => hset
    | cons range ranges ih =>
      obtain ⟨hrange, hranges⟩ := List.forall_mem_cons.1 h
      exact fun set hset => ih hranges _ (isAscii_insert hset hrange)
  exact hfold [] rfl

/-- A selection from all pairs that fold makes among those with an ASCII character only. -/
theorem filterMap_caseFoldPairs {f : Nat × Nat → Option (Nat × Nat)}
    (h : ∀ n least, f (n, least) ≠ none → n < 128 ∨ least < 128) :
    caseFoldPairs.filterMap f = asciiFoldPairs.filterMap f := by
  rw [← filter_caseFoldPairs, List.filterMap_filter]
  refine List.filterMap_congr fun pair _ => ?_
  obtain ⟨n, least⟩ := pair
  by_cases hfold : f (n, least) = none
  · simp [hfold]
  · simp [h n least hfold]

variable {set : CharSet}

theorem leastsBy_caseFoldPairs (h : set.isAscii = true) :
    leastsBy caseFoldPairs set = leastsBy asciiFoldPairs set := by
  refine congrArg ofRanges (filterMap_caseFoldPairs fun n least hsome => ?_)
  have hcovers : (set.covers n || set.covers least) = true := by
    by_contra hnone
    exact hsome (if_neg hnone)
  rw [Bool.or_eq_true] at hcovers
  exact hcovers.imp (lt_of_covers h) (lt_of_covers h)

theorem isAscii_leastsBy (set : CharSet) : (leastsBy asciiFoldPairs set).isAscii = true := by
  have hpairs : ∀ pair ∈ asciiFoldPairs, pair.2 < 128 := by decide
  refine isAscii_ofRanges fun range hrange => ?_
  obtain ⟨pair, hpair, hsome⟩ := List.mem_filterMap.1 hrange
  rw [Option.ite_none_right_eq_some] at hsome
  obtain ⟨-, ⟨⟩⟩ := hsome
  exact hpairs pair hpair

theorem othersBy_caseFoldPairs (h : set.isAscii = true) :
    othersBy caseFoldPairs set = othersBy asciiFoldPairs set := by
  refine filterMap_caseFoldPairs fun n least hsome => .inr (lt_of_covers h ?_)
  by_contra hnone
  exact hsome (if_neg hnone)

/-- The characters that differ from ASCII characters in case only. -/
theorem closeCase_of_isAscii (h : set.isAscii = true) :
    set.closeCase = closeCaseBy asciiFoldPairs set := by
  -- The least characters are ASCII too, so that few others fold to them.
  rw [closeCaseBy, ← leastsBy_caseFoldPairs h, ← othersBy_caseFoldPairs]
  · rfl
  · rw [leastsBy_caseFoldPairs h]
    exact isAscii_leastsBy set

end Pattern.CharSet

/-! ## Spellings of labels -/

namespace Pattern

/-- Expressions one after the other. -/
def Expr.concatAll : List Expr → Expr
  | [] => empty
  | [part] => part
  | part :: next :: parts => concat part (concatAll (next :: parts))

/-- The alternatives in their order. -/
def Expr.alternateAll : List Expr → Expr
  | [] => empty
  | [option] => option
  | option :: next :: options => alternate option (alternateAll (next :: options))

/-- The meaning of a written pattern that keeps the flags. -/
def Means (flags : Flags) (written : Syntax) (expr : Expr) : Prop :=
  written.resolve? flags = some (expr, flags)

theorem resolve?_concat {flags mid last : Flags} {left right : Syntax} {first second : Expr}
    (hleft : left.resolve? flags = some (first, mid))
    (hright : right.resolve? mid = some (second, last)) :
    (Syntax.concat left right).resolve? flags = some (.concat first second, last) := by
  rw [Syntax.resolve?, hleft, Option.bind_eq_bind, Option.bind_some]
  dsimp only
  rw [hright]
  rfl

theorem means_alternate {flags : Flags} {left right : Syntax} {first second : Expr}
    (hleft : Means flags left first) (hright : Means flags right second) :
    Means flags (.alternate left right) (.alternate first second) := by
  rw [Means, Syntax.resolve?, hleft, Option.bind_eq_bind, Option.bind_some]
  dsimp only
  rw [hright]
  rfl

theorem means_capture {flags : Flags} {index : Nat} {body : Syntax} {expr : Expr}
    (h : Means flags body expr) : Means flags (.capture index body) (.capture index expr) := by
  rw [Means, Syntax.resolve?, h]
  rfl

theorem means_concatAll {flags : Flags} {parts : List Syntax} {exprs : List Expr}
    (h : List.Forall₂ (Means flags) parts exprs) :
    Means flags (.concatAll parts) (.concatAll exprs) := by
  induction h with
  | nil => rfl
  | cons hpart hparts ih =>
    cases hparts with
    | nil => exact hpart
    | cons => exact resolve?_concat hpart ih

theorem means_alternateAll {flags : Flags} {options : List Syntax} {exprs : List Expr}
    (h : List.Forall₂ (Means flags) options exprs) :
    Means flags (.alternateAll options) (.alternateAll exprs) := by
  induction h with
  | nil => rfl
  | cons hoption hoptions ih =>
    cases hoptions with
    | nil => exact hoption
    | cons => exact means_alternate hoption ih

end Pattern

namespace Label

/-- A piece of a label. -/
inductive Piece where
  | letter (c : Char)
  /-- A hyphen or a space, or neither. -/
  | gap
  /-- The rest of a word. -/
  | rest
  deriving DecidableEq, Repr

/-- Whether a piece has no letter beyond ASCII. -/
def Piece.isAscii : Piece → Bool
  | letter c => c.toNat < 128
  | gap | rest => true

/-- How a piece is written. -/
def Piece.written : Piece → Syntax
  | letter c => .literal c
  | gap => .repeated 0 (some 1) true (.bracketed false (.union (.literal '-') (.literal ' ')))
  | rest => .repeated 0 none true (.named false .word)

/-- What a piece stands for. A letter stands for all its cases. -/
def Piece.meaning : Piece → Expr
  | letter c => .chars (CharSet.closeCaseBy CharSet.asciiFoldPairs (.single c))
  | gap => .repeated 0 (some 1) true (.chars [(0x20, 0x20), (0x2D, 0x2D)])
  | rest => .repeated 0 none true (.chars wordRanges)

/-- The pieces of a word. -/
def letters (word : String) : List Piece :=
  word.toList.map .letter

/-- The labels that name parts. -/
def spellings : List (List Piece) :=
  [letters "pre" ++ [.rest], letters "1st", letters "first", letters "2nd", letters "second",
    letters "extra" ++ .gap :: letters "time", letters "penalt" ++ [.rest],
    letters "post" ++ [.rest], letters "trophy"]

/-- How labels are written in a pattern that captures them at the start of a word or the end. -/
def written (spellings : List (List Piece)) : Syntax :=
  .concatAll [.flags [(.ignoreCase, true)], .anchor (.word .edge),
    .capture 1 (.alternateAll (spellings.map fun pieces => .concatAll (pieces.map Piece.written)))]

/-- What a pattern of labels stands for. -/
def meaning (spellings : List (List Piece)) : Expr :=
  .concatAll [.empty, .look (.word false .edge),
    .capture 1 (.alternateAll (spellings.map fun pieces => .concatAll (pieces.map Piece.meaning)))]

/-- The flags in a pattern of labels. -/
def flags : Flags where
  ignoreCase := true

theorem means_piece {piece : Piece} (h : piece.isAscii = true) :
    Means flags piece.written piece.meaning := by
  cases piece with
  | letter c =>
    have hset : (CharSet.single c).isAscii = true := by
      simpa [CharSet.single, CharSet.isAscii] using of_decide_eq_true h
    rw [Means, Piece.written, Piece.meaning, Syntax.resolve?, Flags.close,
      CharSet.closeCase_of_isAscii hset]
    rfl
  | gap =>
    -- Neither character has another case.
    have hset : CharSet.isAscii [(0x20, 0x20), (0x2D, 0x2D)] = true := by decide
    have hclosed : CharSet.closeCaseBy CharSet.asciiFoldPairs [(0x20, 0x20), (0x2D, 0x2D)] =
        [(0x20, 0x20), (0x2D, 0x2D)] := by
      decide +kernel
    rw [← CharSet.closeCase_of_isAscii hset] at hclosed
    have hbracket : (Syntax.bracketed false (.union (.literal '-') (.literal ' '))).resolve? flags =
        some (.chars [(0x20, 0x20), (0x2D, 0x2D)], flags) := by
      rw [← hclosed]
      rfl
    rw [Means, Piece.written, Syntax.resolve?, hbracket]
    rfl
  | rest => rfl

/-- A pattern of labels that are spelled in ASCII stands for the labels in all cases. -/
theorem resolve?_written {spellings : List (List Piece)}
    (h : ∀ pieces ∈ spellings, ∀ piece ∈ pieces, piece.isAscii = true) :
    (written spellings).resolve? {} = some (meaning spellings, flags) := by
  have hpieces : ∀ pieces ∈ spellings,
      Means flags (.concatAll (pieces.map Piece.written))
        (.concatAll (pieces.map Piece.meaning)) := by
    intro pieces hmem
    refine means_concatAll ?_
    rw [List.forall₂_map_left_iff, List.forall₂_map_right_iff, List.forall₂_same]
    exact fun piece hpiece => means_piece (h pieces hmem piece hpiece)
  have hlabels : Means flags
      (.alternateAll (spellings.map fun pieces => .concatAll (pieces.map Piece.written)))
      (.alternateAll (spellings.map fun pieces => .concatAll (pieces.map Piece.meaning))) := by
    refine means_alternateAll ?_
    rw [List.forall₂_map_left_iff, List.forall₂_map_right_iff, List.forall₂_same]
    exact hpieces
  -- Only the switch at the start changes the flags.
  have hflags : (Syntax.flags [(.ignoreCase, true)]).resolve? {} = some (.empty, flags) := rfl
  have hanchor : Means flags (.anchor (.word .edge)) (.look (.word false .edge)) := rfl
  exact resolve?_concat hflags (resolve?_concat hanchor (means_capture hlabels))

end Label

/-- The compiled pattern of labels in kits that give none. -/
def Pattern.standardLabel : Pattern where
  source := SourceKit.standardPartLabel
  program := (Label.meaning Label.spellings).program
  groupCount := 1

/-- What a text is compiled to. -/
theorem Pattern.ofText?_eq_some {source : String} {tree : Syntax} {expr : Expr} {flags : Flags}
    (hread : Syntax.read? source.toList = some tree)
    (hresolve : tree.resolve? {} = some (expr, flags))
    (hweight : expr.weight + frameWeight ≤ maxWeight) :
    ofText? source = some ⟨source, expr.program, expr.captures⟩ := by
  rw [ofText?, hread, Option.bind_eq_bind, Option.bind_some, hresolve, Option.bind_eq_bind,
    Option.bind_some]
  exact if_pos hweight

set_option maxRecDepth 10000 in
/-- The standard pattern compiles. -/
theorem Pattern.ofText?_standardPartLabel :
    ofText? SourceKit.standardPartLabel = some standardLabel := by
  have hread : Syntax.read? SourceKit.standardPartLabel.toList =
      some (Label.written Label.spellings) := by
    decide +kernel
  have hresolve : (Label.written Label.spellings).resolve? {} =
      some (Label.meaning Label.spellings, Label.flags) :=
    Label.resolve?_written (by decide)
  have hweight : (Label.meaning Label.spellings).weight + frameWeight ≤ maxWeight := by
    decide +kernel
  have hcaptures : (Label.meaning Label.spellings).captures = 1 := by decide
  rw [ofText?_eq_some hread hresolve hweight, hcaptures, standardLabel]

/-- Kits that give no pattern of labels have the standard one. -/
theorem SourceKit.compile_none (source : String) (mapping : Mapping) (videoUrl : String) :
    compile source mapping videoUrl none = (do
      let kit ← Kit.compile .standard .source source mapping
      let videoUrl ← pattern Pattern.ofText? videoUrl
      return { kit, videoUrl, partLabel := .standardLabel }) := by
  have hpattern : pattern Pattern.ofText? standardPartLabel = .ok .standardLabel := by
    rw [pattern, Pattern.ofText?_standardPartLabel]
  rw [compile, compileWith, Option.getD_none, hpattern]
  rfl

end Footage
