import Footage.Text.CaseFold
import Footage.Text.CodeRanges

/-!
# Sets of characters

The sets that a pattern matches one character against, as ascending code-point ranges that
neither overlap nor touch, with the operations by which patterns build them.
-/

namespace Footage.Pattern

open Text

/-- A set of characters. -/
abbrev CharSet := CodeRanges

namespace CharSet

/-- The last code point. -/
def lastCode : Nat := 0x10FFFF

/-- The set of all characters. -/
def full : CharSet := [(0, lastCode)]

/-- The set of one character. -/
def single (c : Char) : CharSet := [(c.toNat, c.toNat)]

/-- Whether a character is in the set. -/
def has (set : CharSet) (c : Char) : Bool :=
  CodeRanges.covers set c.toNat

/-- The set with all code points from `low` to `high` added. -/
def insert (low high : Nat) : CharSet → CharSet
  | [] => [(low, high)]
  | (first, last) :: rest =>
    if high + 1 < first then (low, high) :: (first, last) :: rest
    else if last + 1 < low then (first, last) :: insert low high rest
    else insert (min low first) (max high last) rest

/-- The set of the code points in some ranges. -/
def ofRanges (ranges : List (Nat × Nat)) : CharSet :=
  ranges.foldl (fun set (first, last) => insert first last set) []

/-- The characters of either set. -/
def union (a b : CharSet) : CharSet :=
  b.foldl (fun set (first, last) => insert first last set) a

/-- The code points from `next` on that are not in the set. -/
def gapsFrom (next : Nat) : CharSet → CharSet
  | [] => if next ≤ lastCode then [(next, lastCode)] else []
  | (first, last) :: rest =>
    if next < first then (next, first - 1) :: gapsFrom (last + 1) rest
    else gapsFrom (last + 1) rest

/-- The characters that are not in the set. -/
def complement (set : CharSet) : CharSet :=
  gapsFrom 0 set

/-- The characters of both sets. -/
def inter (a b : CharSet) : CharSet :=
  complement (union (complement a) (complement b))

/-- The characters of the first set that are not in the second. -/
def diff (a b : CharSet) : CharSet :=
  inter a (complement b)

/-- The characters of exactly one of the sets. -/
def symmDiff (a b : CharSet) : CharSet :=
  diff (union a b) (inter a b)

/-- The set with every character added that differs from one of its characters only in case. -/
def closeCase (set : CharSet) : CharSet :=
  let leasts := ofRanges <| caseFoldPairs.filterMap fun (n, least) =>
    if set.covers n || set.covers least then some (least, least) else none
  let others := caseFoldPairs.filterMap fun (n, least) =>
    if leasts.covers least then some (n, n) else none
  union (union set leasts) others

/-- The set with the other case of every ASCII letter in it added. -/
def closeAsciiCase (set : CharSet) : CharSet :=
  let letters := inter set (ofRanges [(0x41, 0x5A), (0x61, 0x7A)])
  union set <| letters.flatMap fun (first, last) =>
    if first < 0x61 then [(first + 32, last + 32)] else [(first - 32, last - 32)]

/-- Whether all characters of the set are ASCII. -/
def isAscii (set : CharSet) : Bool :=
  set.all fun (_, last) => last < 128

end CharSet

end Footage.Pattern
