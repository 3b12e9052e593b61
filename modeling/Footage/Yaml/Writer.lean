import Footage.Json.Basic
import Footage.Text.Decimal
import Footage.Yaml.Number
import Footage.Yaml.Token

/-!
# Writing YAML

Values are written as block collections, one entry a line. The items of a sequence stand in the
column of the key before them. A text is written plainly where it can be read back as a text, else
in single quotes, or in double quotes if it holds characters that need an escape.
-/

namespace Footage.Yaml

open Text

/-! ## Texts -/

/-- Whether a character may be written as it is. -/
def isPrintable (c : Char) : Bool :=
  let n := c.toNat
  (0x20 ≤ n && n ≤ 0x7E) || (0xA0 ≤ n && n ≤ 0xFFFD && !isBreak c && c != byteOrderMark)

/-- Whether a text starts like an indicator, or like a mark of a document's start or end. -/
def startsAsIndicator (text : List Char) : Bool :=
  match text with
  | [] => false
  | c :: rest =>
    leadingIndicators.contains c || (c == '?' || c == ':' || c == '-') && endsWord rest.head? ||
      "---".toList.isPrefixOf text || "...".toList.isPrefixOf text

/-- Whether a text holds a colon at the end of a word, or a number sign at the start of one. -/
def holdsIndicator : List Char → Bool
  | [] => false
  | c :: rest =>
    c == ':' && endsWord rest.head? || isSpace c && rest.head? == some '#' || holdsIndicator rest

/-- Whether a text can be written plainly. -/
def isPlain (text : List Char) : Bool :=
  !isAmbiguous text && !startsAsIndicator text && !holdsIndicator text &&
    text.head? != some ' ' && text.getLast? != some ' '

/-- The hexadecimal digits of a number, in upper case and with zeros on the left up to a width. -/
def upperHex (width n : Nat) : List Char :=
  ((Nat.toDigits 16 n).map Char.toUpper).leftpad width '0'

/-- A character as it stands in double quotes. -/
def writeEscaped (c : Char) : List Char :=
  let n := c.toNat
  if c = '"' ∨ c = '\\' then ['\\', c]
  else if isPrintable c then [c]
  else
    match n with
    | 0x00 => ['\\', '0']
    | 0x07 => ['\\', 'a']
    | 0x08 => ['\\', 'b']
    | 0x09 => ['\\', 't']
    | 0x0A => ['\\', 'n']
    | 0x0B => ['\\', 'v']
    | 0x0C => ['\\', 'f']
    | 0x0D => ['\\', 'r']
    | 0x1B => ['\\', 'e']
    | 0x85 => ['\\', 'N']
    | 0x2028 => ['\\', 'L']
    | 0x2029 => ['\\', 'P']
    | _ =>
      if n ≤ 0xFF then '\\' :: 'x' :: upperHex 2 n
      else if n ≤ 0xFFFF then '\\' :: 'u' :: upperHex 4 n
      else '\\' :: 'U' :: upperHex 8 n

/-- A text as a scalar. -/
def writeText (text : List Char) : List Char :=
  if !text.all isPrintable then '"' :: text.flatMap writeEscaped ++ ['"']
  else if isPlain text then text
  else '\'' :: (text.flatMap fun c => if c = '\'' then [c, c] else [c]) ++ ['\'']

/-! ## Values -/

/-- A value that takes no lines of its own. What cannot be read is written as null. -/
def writeInline? : Json → Option (List Char)
  | .null | .unreadable => some "null".toList
  | .bool b => some (toString b).toList
  | .integer n => some ((if n < 0 then ['-'] else []) ++ decimal n.natAbs)
  | .real text => some text.toList
  | .string text => some (writeText text.toList)
  | .array [] => some ['[', ']']
  | .object [] => some ['\x7b', '\x7d']
  | .array _ | .object _ => none

/-- Lines that stand further to the right, except for the first one, which follows a mark. -/
def hang (mark : List Char) : List (List Char) → List (List Char)
  | [] => [mark]
  | first :: rest => (mark ++ first) :: rest.map ([' ', ' '] ++ ·)

/-- Whether a value is a sequence. -/
def isSequence : Json → Bool
  | .array _ => true
  | _ => false

mutual

/-- The lines of a value. -/
def writeLines : Json → List (List Char)
  | .array (item :: items) => writeItems (item :: items)
  | .object (member :: members) => writeMembers (member :: members)
  | value => [(writeInline? value).getD []]

/-- The lines of the items of a sequence. -/
def writeItems : List Json → List (List Char)
  | [] => []
  | item :: items => hang ['-', ' '] (writeLines item) ++ writeItems items

/-- The lines of the entries of a mapping. -/
def writeMembers : List (String × Json) → List (List Char)
  | [] => []
  | (key, value) :: members =>
    let start := writeText key.toList ++ [':']
    let lines := writeLines value
    (match writeInline? value with
      | some text => [start ++ ' ' :: text]
      | none => start :: if isSequence value then lines else lines.map ([' ', ' '] ++ ·)) ++
      writeMembers members

end

/-- A value as a document. -/
def write (value : Json) : List Char :=
  (writeLines value).flatMap fun line => line ++ ['\n']

end Footage.Yaml
