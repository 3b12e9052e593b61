import Footage.Text.CodeRanges
import Footage.Text.Hexadecimal

/-!
# Named sets of characters

The tables of characters list sets under the names that they go by. A set is written as lines of
entries, each for one code point, for all from a first to a last one (`41-5A`), or for every other
one of these (`100/136`), as where capital and small letters alternate.
-/

namespace Footage.Text

/-- The code points that an entry stands for. -/
def entryRanges (entry : List Char) : CodeRanges :=
  let digits := entry.takeWhile isHexDigit
  let first := hexNumber digits
  match entry.drop digits.length with
  | '-' :: last => [(first, hexNumber last)]
  | '/' :: last =>
    (List.range ((hexNumber last - first) / 2 + 1)).map fun n => (first + 2 * n, first + 2 * n)
  | _ => [(first, first)]

/-- The code points that the entries of some lines stand for. -/
def listedRanges (lines : List String) : CodeRanges :=
  lines.flatMap fun line => (line.toList.splitOn ' ').flatMap entryRanges

/-- A set of characters with the names that it goes by, in small letters and without gaps. -/
structure NamedSet where
  /-- The names. -/
  names : List String
  /-- The entries of its characters. -/
  lines : List String

namespace NamedSet

/-- The characters of the set. -/
def ranges (set : NamedSet) : CodeRanges :=
  listedRanges set.lines

/-- The characters of the set with a name. -/
def find? (sets : List NamedSet) (name : String) : Option CodeRanges :=
  (sets.find? (name ∈ ·.names)).map ranges

end NamedSet

end Footage.Text
