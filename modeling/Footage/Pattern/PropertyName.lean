import Footage.Pattern.Boundary
import Footage.Text.Substring

/-!
# Names of properties

What a pattern may write for a set of characters: the name of a property that a character has or
lacks, of a general category or of a script, or the name of a property with its value after it.
-/

namespace Footage.Pattern

open Text

/-- A name without what does not matter in it: its case, spaces, hyphens, underscores, and a first
word "is". Only a single `c` keeps that word, with which it is the name of another property. -/
def plainName (name : List Char) : String :=
  let isNamed := (name.take 2).map Char.toLower = ['i', 's']
  let kept := (if isNamed then name.drop 2 else name).filter fun c =>
    c.toNat < 128 && c ∉ [' ', '_', '-']
  let plain := kept.map Char.toLower
  if isNamed ∧ plain = ['c'] then "isc" else String.ofList plain

/-- The characters with a value of a property. -/
def valueSet? (property value : String) : Option CharSet :=
  if property ∈ ["gc", "generalcategory"] then categorySet? value
  else if property ∈ ["sc", "script"] then scriptSet? value
  else if property ∈ ["scx", "scriptextensions"] then scriptUseSet? value
  else if property = "age" then ageSet? value
  else if property ∈ ["gcb", "graphemeclusterbreak"] then graphemeBreakSet? value
  else if property ∈ ["wb", "wordbreak"] then wordBreakSet? value
  else if property ∈ ["sb", "sentencebreak"] then sentenceBreakSet? value
  else none

/-- The characters that a name stands for. A property and its value are separated by a mark, and
the mark of inequality means the same as the others. -/
def property? (name : String) : Option CharSet :=
  match ["!=", ":", "="].findSome? fun mark => cutAt? mark.toList name.toList with
  | some (property, value) => valueSet? (plainName property) (plainName value)
  | none =>
    let name := plainName name.toList
    binarySet? name <|> categorySet? name <|> scriptSet? name

end Footage.Pattern
