import Footage.Pattern.Property

/-!
# Boundaries in texts

The classes of characters by which the boundaries of visible characters, words and sentences are
told. A pattern may name the sets of these classes; a character of none of them has none that a
pattern may name.
-/

namespace Footage.Pattern

open Text

/-- The set of one code point. -/
def codeSet (n : Nat) : CharSet :=
  [(n, n)]

/-- The marks that stand before what they change, apart from the one that starts a word. -/
def numberMarkSet : CharSet :=
  CharSet.diff (listedSet "prependedconcatenationmark") (codeSet 0x70F)

/-! ## Visible characters -/

/-- Controls, which stand alone. -/
def controlSet : CharSet :=
  let controls := CharSet.union (categorySet ["zl", "zp", "cc", "cf"])
    (CharSet.diff defaultIgnorableSet assignedSet)
  let others := CharSet.union
    (CharSet.union graphemeExtendSet (listedSet "prependedconcatenationmark"))
    [(0x0A, 0x0A), (0x0D, 0x0D), (0x200C, 0x200D)]
  controls.diff others

/-- The marks that take room of their own after a character. -/
def spacingMarkSet : CharSet :=
  let marks := CharSet.union (CharSet.diff (categorySet ["mc"]) graphemeExtendSet)
    (listedRanges ["E33 EB3"])
  marks.diff (listedRanges ["102B-102C 1038 1062-1064 1067-106D 1083 1087-108C 108F 109A-109C",
    "1A61 1A63-1A64 AA7B AA7D 11720-11721"])

/-- The Korean syllables without a final consonant: every 28th of all. -/
def openSyllableSet : CharSet :=
  (List.range 399).map fun n => (0xAC00 + 28 * n, 0xAC00 + 28 * n)

/-- The classes of the boundaries of visible characters. -/
def graphemeBreakSet? : String → Option CharSet
  | "control" | "cn" => some controlSet
  | "cr" => some (codeSet 0x0D)
  | "extend" | "ex" =>
    some (CharSet.diff (CharSet.union graphemeExtendSet pictureChangeSet) (codeSet 0x200D))
  | "l" => some [(0x1100, 0x115F), (0xA960, 0xA97C)]
  | "lf" => some (codeSet 0x0A)
  | "lv" => some openSyllableSet
  | "lvt" => some (CharSet.diff [(0xAC00, 0xD7A3)] openSyllableSet)
  | "prepend" | "pp" =>
    some (CharSet.union (listedSet "prependedconcatenationmark")
      (listedRanges ["D4E 111C2-111C3 113D1 1193F 11941 11A84-11A89 11D46 11F02"]))
  | "regionalindicator" | "ri" => some regionSet
  | "spacingmark" | "sm" => some spacingMarkSet
  | "t" => some [(0x11A8, 0x11FF), (0xD7CB, 0xD7FB)]
  | "v" => some [(0x1160, 0x11A7), (0xD7B0, 0xD7C6), (0x16D63, 0x16D63), (0x16D67, 0x16D6A)]
  | "zwj" => some (codeSet 0x200D)
  | _ => none

/-! ## Words -/

/-- What goes on the word before it. -/
def wordExtendSet : CharSet :=
  let marks := CharSet.union graphemeExtendSet (categorySet ["mc"])
  CharSet.diff (marks.union pictureChangeSet) (codeSet 0x200D)

/-- The letters of the Katakana, and what is written among them. -/
def katakanaSet : CharSet :=
  CharSet.union ((scriptSet? "katakana").getD [])
    (listedRanges ["3031-3035 309B-309C 30A0 30FC FF70"])

/-- The letters of the Hebrew script. -/
def hebrewLetterSet : CharSet :=
  CharSet.inter ((scriptSet? "hebrew").getD []) (categorySet ["lo"])

/-- The characters of the scripts whose words are only told with a dictionary. -/
def dictionarySet : CharSet :=
  CharSet.ofRanges (["thai", "lao", "myanmar", "khmer", "taile", "newtailue", "taitham", "taiviet",
    "ahom"].flatMap fun name => (scriptSet? name).getD [])

/-- The letters of the scripts that write words apart. -/
def wordLetterSet : CharSet :=
  let others := CharSet.ofRanges <| dictionarySet ++ wordExtendSet ++ katakanaSet ++
    hebrewLetterSet ++ listedSet "ideographic" ++ (scriptSet? "hiragana").getD []
  CharSet.union (CharSet.diff alphabeticSet others)
    (listedRanges ["B8 2C2-2C5 2D2-2D7 2DE-2DF 2E5-2EB 2ED 2EF-2FF 55A-55C 55E 58A 5F3 70F",
      "A708-A716 A720-A721 A789-A78A AB5B"])

/-- The classes of the boundaries of words. -/
def wordBreakSet? : String → Option CharSet
  | "aletter" | "le" => some wordLetterSet
  | "cr" => some (codeSet 0x0D)
  | "doublequote" | "dq" => some (codeSet 0x22)
  | "extend" => some wordExtendSet
  | "extendnumlet" | "ex" => some (listedRanges ["5F 202F 203F-2040 2054 FE33-FE34 FE4D-FE4F FF3F"])
  | "format" | "fo" =>
    some (CharSet.diff (CharSet.diff (categorySet ["cf"]) graphemeExtendSet)
      (CharSet.union (listedSet "prependedconcatenationmark") (listedRanges ["200B 200D"])))
  | "hebrewletter" | "hl" => some hebrewLetterSet
  | "katakana" | "ka" => some katakanaSet
  | "lf" => some (codeSet 0x0A)
  | "midletter" | "ml" => some (listedRanges ["3A B7 387 55F 5F4 2027 FE13 FE55 FF1A"])
  | "midnum" | "mn" =>
    some (listedRanges ["2C 3B 37E 589 60C-60D 66C 7F8 2044 FE50 FE54 FF0C FF1B"])
  | "midnumlet" | "mb" => some (listedRanges ["2E 2018-2019 2024 FE52 FF07 FF0E"])
  | "newline" | "nl" => some (listedRanges ["B-C 85 2028-2029"])
  | "numeric" | "nu" =>
    some (CharSet.union (CharSet.union (categorySet ["nd"]) numberMarkSet)
      (listedRanges ["66B 19DA"]))
  | "regionalindicator" | "ri" => some regionSet
  | "singlequote" | "sq" => some (codeSet 0x27)
  | "wsegspace" =>
    some (CharSet.diff (categorySet ["zs"]) (listedRanges ["A0 2007 202F"]))
  | "zwj" => some (codeSet 0x200D)
  | _ => none

/-! ## Sentences -/

/-- The full stops that may also stand inside a sentence. -/
def fullStopSet : CharSet :=
  listedRanges ["2E 2024 FE52 FF0E"]

/-- What goes on the character before it. -/
def sentenceExtendSet : CharSet :=
  CharSet.union graphemeExtendSet (CharSet.union (categorySet ["mc"]) (codeSet 0x200D))

/-- The Georgian letters that are told apart by case but do not start a sentence by it. -/
def georgianCaseSet : CharSet :=
  listedRanges ["10D0-10FA 10FD-10FF 1C90-1CBA 1CBD-1CBF"]

/-- The letters that a sentence may start with. -/
def sentenceUpperSet : CharSet :=
  CharSet.diff (CharSet.union uppercaseSet (categorySet ["lt"])) georgianCaseSet

/-- The letters that a sentence goes on with. -/
def sentenceLowerSet : CharSet :=
  CharSet.diff lowercaseSet (CharSet.union graphemeExtendSet georgianCaseSet)

/-- The classes of the boundaries of sentences. -/
def sentenceBreakSet? : String → Option CharSet
  | "aterm" | "at" => some fullStopSet
  | "close" | "cl" =>
    some (CharSet.diff
      (CharSet.union
        (CharSet.union (categorySet ["ps", "pe", "pi", "pf"]) (listedSet "quotationmark"))
        (listedRanges ["275B-2760 2E00-2E01 2E06-2E08 2E0B 1F676-1F678"]))
      (listedRanges ["FF02 FF07"]))
  | "cr" => some (codeSet 0x0D)
  | "extend" | "ex" => some sentenceExtendSet
  | "format" | "fo" =>
    some (CharSet.diff (CharSet.diff (categorySet ["cf"]) sentenceExtendSet) numberMarkSet)
  | "lf" => some (codeSet 0x0A)
  | "lower" | "lo" => some sentenceLowerSet
  | "numeric" | "nu" =>
    some (CharSet.union (CharSet.union (categorySet ["nd"]) numberMarkSet)
      (listedRanges ["66B-66C 19DA"]))
  | "oletter" | "le" =>
    some (CharSet.union
      (CharSet.diff alphabeticSet
        (CharSet.ofRanges (sentenceUpperSet ++ sentenceLowerSet ++ sentenceExtendSet)))
      (codeSet 0x5F3))
  | "scontinue" | "sc" =>
    some (listedRanges ["2C-2D 3A-3B 37E 55D 60C-60D 7F8 1802 1808 2013-2014 3001 FE10-FE11",
      "FE13-FE14 FE31-FE32 FE50-FE51 FE54-FE55 FE58 FE63 FF0C-FF0D FF1A-FF1B FF64"])
  | "sep" | "se" => some (listedRanges ["85 2028-2029"])
  | "sp" =>
    some (CharSet.diff blankSet (listedRanges ["A D 85 2028-2029"]))
  | "sterm" | "st" => some (CharSet.diff (listedSet "sentenceterminal") fullStopSet)
  | "upper" | "up" => some sentenceUpperSet
  | _ => none

end Footage.Pattern
