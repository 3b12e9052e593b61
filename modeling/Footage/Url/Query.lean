import Footage.Url.Percent

/-!
# Query pairs

A query is read as a list of keys with values, in the way in which forms are submitted: pairs are
separated by ampersands, a key and its value by the first equals sign, a plus sign stands for a
space, and everything else out of the ordinary is percent-encoded.
-/

namespace Footage.Url

open Text

/-- A key with its value. -/
abbrev Pair := String × String

/-- A key or a value as it stands in a query. -/
def encodeComponent (text : String) : List Char :=
  text.toList.flatMap fun c =>
    if c = ' ' then ['+']
    else if inFormSet c then (String.utf8EncodeChar c).flatMap percentByte
    else [c]

/-- The key or value that stands in a query. -/
def decodeComponent (text : List Char) : String :=
  String.ofList (decodeUtf8 (percentDecode (text.map fun c => if c = '+' then ' ' else c)))

/-- A pair as it stands in a query. -/
def encodePair (pair : Pair) : List Char :=
  encodeComponent pair.1 ++ '=' :: encodeComponent pair.2

/-- The pair that stands in a query. Without an equals sign the value is empty. -/
def decodePair (text : List Char) : Pair :=
  (decodeComponent (text.takeWhile (· ≠ '=')),
    decodeComponent ((text.dropWhile (· ≠ '=')).drop 1))

/-- The query of a list of pairs. -/
def encodePairs (pairs : List Pair) : List Char :=
  ['&'].intercalate (pairs.map encodePair)

/-- The pairs of a query. Empty stretches between ampersands are no pairs. -/
def decodePairs (query : List Char) : List Pair :=
  ((query.splitOn '&').filter fun text => !text.isEmpty).map decodePair

end Footage.Url
