/-!
# Tokens of YAML

The pieces of which a YAML text consists: indicators, the bounds of block collections, node
properties and scalars.
-/

namespace Footage.Yaml

/-- How a scalar is written. -/
inductive Style where
  | plain
  | quoted
  | literal
  | folded
  deriving DecidableEq, Repr

/-- A piece of a YAML text. -/
inductive Token where
  | version (major minor : Nat)
  | tagPrefix (handle start : List Char)
  | documentStart
  | documentEnd
  | blockSequenceStart
  | blockMappingStart
  | blockEnd
  | flowSequenceStart
  | flowSequenceEnd
  | flowMappingStart
  | flowMappingEnd
  | blockEntry
  | flowEntry
  | key
  | value
  | alias (name : List Char)
  | anchor (name : List Char)
  | tag (handle suffix : List Char)
  | scalar (style : Style) (text : List Char)
  deriving DecidableEq, Repr

/-! ## Characters -/

/-- Whether a character may stand in a YAML text. -/
def isAllowed (c : Char) : Bool :=
  let n := c.toNat
  c == '\t' || c == '\n' || c == '\r' || (0x20 ≤ n && n ≤ 0x7E) || n == 0x85 ||
    (0xA0 ≤ n && n ≤ 0xFFFD) || 0x10000 ≤ n

/-- The byte order mark. -/
def byteOrderMark : Char := Char.ofNat 0xFEFF

/-- Whether a character is a space or a tab. -/
def isSpace (c : Char) : Bool :=
  c == ' ' || c == '\t'

/-- Whether a character breaks a line. -/
def isBreak (c : Char) : Bool :=
  c == '\n' || c == '\r' || c.toNat == 0x85 || c.toNat == 0x2028 || c.toNat == 0x2029

/-- Whether a character, or the end of the text, ends a word. -/
def endsWord : Option Char → Bool
  | some c => isSpace c || isBreak c
  | none => true

/-- Whether a character may stand in the name of an anchor. -/
def isNameChar (c : Char) : Bool :=
  c.isAlphanum || c == '_' || c == '-'

/-- The characters with which no plain scalar starts, whatever comes after them. -/
def leadingIndicators : List Char :=
  ['#', ',', '[', ']', '\x7b', '\x7d', '&', '*', '!', '|', '>', '\'', '"', '%', '@', '`']

/-! ## Places -/

/-- A place in a text: what follows it, how many characters and lines come before it, and how many
characters of its line do. -/
structure Cursor where
  rest : List Char
  index : Nat := 0
  line : Nat := 0
  column : Nat := 0

namespace Cursor

/-- The place after some characters of the same line. -/
def advance (cursor : Cursor) (n : Nat) : Cursor :=
  { cursor with
    rest := cursor.rest.drop n, index := cursor.index + n, column := cursor.column + n }

/-- The place after the characters that meet a condition, none of which breaks the line. -/
def skipWhile (cursor : Cursor) (condition : Char → Bool) : Cursor :=
  cursor.advance (cursor.rest.takeWhile condition).length

/-- Takes a line break. Most line breaks count as a line feed. -/
def takeBreak (cursor : Cursor) : List Char × Cursor :=
  let next (n : Nat) : Cursor := ⟨cursor.rest.drop n, cursor.index + n, cursor.line + 1, 0⟩
  match cursor.rest with
  | '\r' :: '\n' :: _ => (['\n'], next 2)
  | c :: _ => (if c.toNat == 0x2028 || c.toNat == 0x2029 then [c] else ['\n'], next 1)
  | [] => ([], cursor)

/-- Whether the text goes on with a character. -/
def sees (cursor : Cursor) (c : Char) : Bool :=
  cursor.rest.head? == some c

/-- Whether the text goes on with a line break. -/
def seesBreak (cursor : Cursor) : Bool :=
  cursor.rest.head?.any isBreak

/-- Whether a line starts with three characters that stand on their own. -/
def seesMarker (cursor : Cursor) (marker : String) : Bool :=
  cursor.column == 0 && marker.toList.isPrefixOf cursor.rest && endsWord (cursor.rest.drop 3).head?

/-- Whether a line marks the start or the end of a document. -/
def seesDocumentMarker (cursor : Cursor) : Bool :=
  cursor.seesMarker "---" || cursor.seesMarker "..."

end Cursor

end Footage.Yaml
