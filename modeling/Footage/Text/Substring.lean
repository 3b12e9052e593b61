/-!
# Texts within texts

Whether a text occurs in another, and what follows its first occurrence.
-/

namespace Footage.Text

/-- The rest of the text after a given start, if the text has that start. -/
def after? : List Char → List Char → Option (List Char)
  | [], text => some text
  | _ :: _, [] => none
  | c :: start, d :: text => if c = d then after? start text else none

/-- What stands before and after the first occurrence of a mark in the text. -/
def cutAt? (mark : List Char) : List Char → Option (List Char × List Char)
  | [] => none
  | c :: text =>
    match after? mark (c :: text) with
    | some rest => some ([], rest)
    | none => (cutAt? mark text).map fun (before, rest) => (c :: before, rest)

/-- Whether the word occurs in the text. -/
def contains (word : List Char) : List Char → Bool
  | [] => word.isEmpty
  | c :: text => word.isPrefixOf (c :: text) || contains word text

/-- Whether a word of ASCII letters occurs in the text. -/
def mentions (text : List Char) (word : String) : Bool :=
  contains word.toList text

end Footage.Text
