/-!
# Code-point ranges

A property of characters is a list of inclusive code-point ranges in ascending order. The
tables of this folder are such lists, and `CodeRanges.covers` looks a character up in one.
-/

namespace Footage.Text

/-- Inclusive code-point ranges, ascending and disjoint. -/
abbrev CodeRanges := List (Nat × Nat)

namespace CodeRanges

/-- The code point lies in one of the ranges. The search stops at the first range above it. -/
def covers : CodeRanges → Nat → Bool
  | [], _ => false
  | (first, last) :: rest, n => if n < first then false else n ≤ last || covers rest n

/-- Each range is non-empty and starts after the end of the range before it. -/
def Ascending : CodeRanges → Prop
  | [] => True
  | [(first, last)] => first ≤ last
  | (first, last) :: (next, stop) :: rest =>
    first ≤ last ∧ last < next ∧ Ascending ((next, stop) :: rest)

end CodeRanges

end Footage.Text
