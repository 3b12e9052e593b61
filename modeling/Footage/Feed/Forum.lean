import Footage.Text.Decimal
import Footage.Url.Basic

/-!
# Numbered pages

The address of a page of a forum carries the page's number as the value of a key in its query.
-/

namespace Footage.Url

open Text

/-- The key of the number of a page. -/
def pageKey : String := "page"

/-- The number of a page. What is no number below `2 ^ 64` counts as zero. -/
def pageNumber? (url : Url) : Option Nat :=
  (url.queryPairs.lookup pageKey).map fun value =>
    (readUnsigned? UInt64.size value.toList).getD 0

/-- The address of the next page. It has the next number, which must be below `2 ^ 64` too. -/
def nextPage? (url : Url) : Option Url := do
  let next := (← url.pageNumber?) + 1
  if next < UInt64.size then
    let number := String.ofList (decimal next)
    return url.withQueryPairs (url.queryPairs.map fun (key, value) =>
      (key, if key = pageKey then number else value))
  else none

end Footage.Url
