import Footage.Pattern.CharSet
import Footage.Text.Age
import Footage.Text.Category
import Footage.Text.Property
import Footage.Text.Script

/-!
# Properties of characters

The sets of characters that a pattern may name by one property: general categories, scripts, ages
and the properties that a character has or lacks. Most of the latter are listed or follow from the
general categories and a short list of exceptions.
-/

namespace Footage.Pattern

open Text

/-! ## General categories -/

/-- The characters of the general categories with the given names. -/
def categorySet (names : List String) : CharSet :=
  CharSet.ofRanges (names.flatMap fun name => (NamedSet.find? generalCategories name).getD [])

/-- The categories of letters. -/
def letterCategories : List String := ["lu", "ll", "lt", "lm", "lo"]

/-- The categories that a name stands for together. -/
def categoryGroup? : String → Option (List String)
  | "l" | "letter" => some letterCategories
  | "lc" | "casedletter" => some ["lu", "ll", "lt"]
  | "m" | "mark" | "combiningmark" => some ["mn", "mc", "me"]
  | "n" | "number" => some ["nd", "nl", "no"]
  | "p" | "punctuation" | "punct" => some ["pc", "pd", "ps", "pe", "pi", "pf", "po"]
  | "s" | "symbol" => some ["sm", "sc", "sk", "so"]
  | "z" | "separator" => some ["zs", "zl", "zp"]
  | _ => none

/-- The characters that belong to a general category. -/
def assignedSet : CharSet :=
  CharSet.ofRanges (generalCategories.flatMap (·.ranges))

/-- The characters of the categories that a name stands for. -/
def categorySet? : String → Option CharSet
  | "any" => some CharSet.full
  | "ascii" => some [(0, 0x7F)]
  | "assigned" => some assignedSet
  | "cn" | "unassigned" => some assignedSet.complement
  | "c" | "other" => some (assignedSet.diff (categorySet ["cc", "cf", "co"])).complement
  | name =>
    match categoryGroup? name with
    | some names => some (categorySet names)
    | none => NamedSet.find? generalCategories name

/-! ## Scripts and ages -/

/-- The characters of a script. -/
def scriptSet? (name : String) : Option CharSet :=
  NamedSet.find? (scripts.map (·.toNamedSet)) name

/-- The characters that are used in a script. A character that other scripts share is not of the
script of its own any more if that script does not name any letters. -/
def scriptUseSet? (name : String) : Option CharSet := do
  let script ← scripts.find? (name ∈ ·.names)
  let shared := CharSet.ofRanges (scripts.flatMap fun other => listedRanges other.shared)
  if script.names.head? ∈ [some "common", some "inherited"] then
    return CharSet.diff script.ranges shared
  else
    return CharSet.union script.ranges (listedRanges script.shared)

/-- The characters of a version of the standard: those that it added, and those of all versions
before it. -/
def ageSet? (name : String) : Option CharSet := do
  let position ← ages.findIdx? (name ∈ ·.names)
  return CharSet.ofRanges ((ages.take (position + 1)).flatMap (·.ranges))

/-! ## Properties that a character has or lacks -/

/-- The characters with a listed property. -/
def listedSet (name : String) : CharSet :=
  (NamedSet.find? listedProperties name).getD []

/-- White space. -/
def blankSet : CharSet :=
  [(0x09, 0x0D), (0x20, 0x20), (0x85, 0x85), (0xA0, 0xA0), (0x1680, 0x1680), (0x2000, 0x200A),
    (0x2028, 0x2029), (0x202F, 0x202F), (0x205F, 0x205F), (0x3000, 0x3000)]

/-- White space in the text of patterns and programs. -/
def patternBlankSet : CharSet :=
  [(0x09, 0x0D), (0x20, 0x20), (0x85, 0x85), (0x200E, 0x200F), (0x2028, 0x2029)]

/-- The code points that never stand for characters: the last two of each plane, and a few more. -/
def noncharacterSet : CharSet :=
  CharSet.union [(0xFDD0, 0xFDEF)]
    ((List.range 17).map fun plane => (plane * 0x10000 + 0xFFFE, plane * 0x10000 + 0xFFFF))

/-- The letters that stand for the regions in flags. -/
def regionSet : CharSet := [(0x1F1E6, 0x1F1FF)]

/-- The colours of skin that change the picture before them. -/
def pictureChangeSet : CharSet := [(0x1F3FB, 0x1F3FF)]

/-- Capital letters, numerals and signs. -/
def uppercaseSet : CharSet :=
  CharSet.union (categorySet ["lu"]) (listedSet "otheruppercase")

/-- Small letters, numerals and signs. -/
def lowercaseSet : CharSet :=
  CharSet.union (categorySet ["ll"]) (listedSet "otherlowercase")

/-- Letters, and what is written like them. -/
def alphabeticSet : CharSet :=
  CharSet.union (categorySet ("nl" :: letterCategories)) (listedSet "otheralphabetic")

/-- The marks that a character is not told apart without. -/
def graphemeExtendSet : CharSet :=
  CharSet.union (categorySet ["mn", "me"]) (listedSet "othergraphemeextend")

/-- What programs read as marks or blanks, which no name may hold. -/
def syntaxSet : CharSet :=
  CharSet.union (listedSet "patternsyntax") patternBlankSet

/-- What a name may start with. -/
def nameStartSet : CharSet :=
  CharSet.diff
    (CharSet.union (categorySet ("nl" :: letterCategories)) (listedSet "otheridstart")) syntaxSet

/-- What a name may go on with. -/
def namePartSet : CharSet :=
  CharSet.diff
    (CharSet.union (CharSet.union nameStartSet (categorySet ["mn", "mc", "nd", "pc"]))
      (listedSet "otheridcontinue")) syntaxSet

/-- The characters whose compatible forms may not go on a name, though they may themselves. -/
def unstableNamePartSet : CharSet :=
  listedRanges ["37A 309B-309C FC5E-FC63 FDFA-FDFB FE70/FE7E"]

/-- The characters that programs leave out when they cannot show them. -/
def defaultIgnorableSet : CharSet :=
  let ignored := CharSet.union
    (CharSet.union (categorySet ["cf"]) (listedSet "otherdefaultignorablecodepoint"))
    (listedSet "variationselector")
  let shown := CharSet.union
    (CharSet.union blankSet (listedSet "prependedconcatenationmark"))
    [(0xFFF9, 0xFFFB), (0x13430, 0x13440)]
  ignored.diff shown

/-- The characters that carry marks. -/
def graphemeBaseSet : CharSet :=
  CharSet.diff assignedSet
    (CharSet.union (categorySet ["cc", "cf", "co", "zl", "zp"]) graphemeExtendSet)

/-- The punctuation that may stand inside a word. -/
def insideWordSet : CharSet :=
  listedRanges ["27 2E 3A B7 387 55F 5F4 2018-2019 2024 2027 FE13 FE52 FE55 FF07 FF0E FF1A"]

/-- The characters with a property that a character has or lacks. -/
def binarySet? : String → Option CharSet
  | "alphabetic" | "alpha" => some alphabeticSet
  | "caseignorable" | "ci" =>
    some (CharSet.union (categorySet ["mn", "me", "cf", "lm", "sk"]) insideWordSet)
  | "cased" => some (CharSet.union (CharSet.union lowercaseSet uppercaseSet) (categorySet ["lt"]))
  | "changeswhencasemapped" | "cwcm" =>
    some (CharSet.ofRanges (["changeswhenlowercased", "changeswhenuppercased",
      "changeswhentitlecased"].flatMap listedSet))
  | "defaultignorablecodepoint" | "di" => some defaultIgnorableSet
  | "emojimodifier" | "emod" => some pictureChangeSet
  | "graphemebase" | "grbase" => some graphemeBaseSet
  | "graphemeextend" | "grext" => some graphemeExtendSet
  | "hexdigit" | "hex" =>
    some [(0x30, 0x39), (0x41, 0x46), (0x61, 0x66), (0xFF10, 0xFF19), (0xFF21, 0xFF26),
      (0xFF41, 0xFF46)]
  | "idcontinue" | "idc" => some namePartSet
  | "idstart" | "ids" => some nameStartSet
  | "joincontrol" | "joinc" => some [(0x200C, 0x200D)]
  | "lowercase" | "lower" => some lowercaseSet
  | "math" => some (CharSet.union (categorySet ["sm"]) (listedSet "othermath"))
  | "noncharactercodepoint" | "nchar" => some noncharacterSet
  | "patternwhitespace" | "patws" => some patternBlankSet
  | "regionalindicator" | "ri" => some regionSet
  | "uppercase" | "upper" => some uppercaseSet
  | "whitespace" | "wspace" | "space" => some blankSet
  | "xidcontinue" | "xidc" => some (CharSet.diff namePartSet unstableNamePartSet)
  | "xidstart" | "xids" =>
    some (CharSet.diff nameStartSet
      (CharSet.union unstableNamePartSet (listedRanges ["E33 EB3 FF9E-FF9F"])))
  | name => NamedSet.find? listedProperties name

end Footage.Pattern
