import Footage.Text.Decimal
import Footage.Yaml.Scalar

/-!
# Dividing YAML into tokens

The start and the end of a block collection follow from the columns in which its entries stand. A
key without an indicator is recognised only by the colon after it: wherever a key may start, its
place among the tokens is remembered, and the colon puts the missing tokens there.
-/

namespace Footage.Yaml

open Text

/-! ## Properties and directives -/

/-- Takes the name after the indicator of an anchor or an alias. -/
def takeName? (cursor : Cursor) : Option (List Char × Cursor) :=
  let name := cursor.rest.takeWhile isNameChar
  let next := cursor.advance name.length
  let follows (c : Char) : Bool := c ∈ ['?', ':', ',', ']', '}', '%', '@', '`']
  if name.isEmpty then none
  else if endsWord next.rest.head? || next.rest.head?.any follows then some (name, next)
  else none

/-- Whether a character may stand in a tag; in a verbatim one a few more may. -/
def isTagChar (verbatim : Bool) (c : Char) : Bool :=
  isNameChar c || c ∈ ";/?:@&=+$.!~*'()%".toList || verbatim && c ∈ [',', '[', ']']

/-- The handle and the suffix of a tag, and the number of characters they take after the first
exclamation mark. -/
def tagParts? (text : List Char) : Option (List Char × List Char × Nat) :=
  let name := text.takeWhile isNameChar
  match text, text.drop name.length with
  | '<' :: rest, _ =>
    let suffix := rest.takeWhile (isTagChar true)
    if suffix.isEmpty ∨ (rest.drop suffix.length).head? ≠ some '>' then none
    else some ([], suffix, suffix.length + 2)
  | _, '!' :: rest =>
    let suffix := rest.takeWhile (isTagChar false)
    if suffix.isEmpty then none
    else some ('!' :: name ++ ['!'], suffix, name.length + 1 + suffix.length)
  | _, _ =>
    let suffix := text.takeWhile (isTagChar false)
    if suffix.isEmpty then some ([], ['!'], 0) else some (['!'], suffix, suffix.length)

/-- Takes a tag after its first exclamation mark. -/
def takeTag? (inFlow : Bool) (cursor : Cursor) : Option (Token × Cursor) := do
  let (handle, suffix, length) ← tagParts? cursor.rest
  let next := cursor.advance length
  if endsWord next.rest.head? || inFlow && next.sees ',' then
    return (.tag handle suffix, next)
  else none

/-- Takes the digits of a version number. -/
def takeVersionNumber? (cursor : Cursor) : Option (Nat × Cursor) :=
  let digits := cursor.rest.takeWhile Char.isDigit
  if digits.isEmpty ∨ 9 < digits.length then none
  else some (digitsValue digits, cursor.advance digits.length)

/-- Takes the version in a directive. -/
def takeVersion? (cursor : Cursor) : Option (Token × Cursor) := do
  let (major, cursor) ← takeVersionNumber? cursor
  if !cursor.sees '.' then none
  else
    let (minor, cursor) ← takeVersionNumber? (cursor.advance 1)
    return (.version major minor, cursor)

/-- Takes the handle and the start of tags in a directive. -/
def takeTagPrefix? (cursor : Cursor) : Option (Token × Cursor) :=
  match cursor.rest with
  | '!' :: rest =>
    let name := rest.takeWhile isNameChar
    let handle := match rest.drop name.length with
      | '!' :: _ => some ('!' :: name ++ ['!'])
      | _ => if name.isEmpty then some ['!'] else none
    match handle with
    | none => none
    | some handle =>
      let next := cursor.advance handle.length
      let value := next.skipWhile isSpace
      let start := value.rest.takeWhile (isTagChar true)
      let finish := value.advance start.length
      if next.rest.head?.any isSpace && !start.isEmpty && endsWord finish.rest.head? then
        some (.tagPrefix handle start, finish)
      else none
  | _ => none

/-- The place after the blanks and the comment at the end of a line, and after the line. -/
def finishLine? (cursor : Cursor) : Option Cursor :=
  let cursor := cursor.skipWhile isSpace
  let cursor := if cursor.sees '#' then cursor.skipWhile fun c => !isBreak c else cursor
  if cursor.rest.isEmpty || cursor.seesBreak then some cursor.takeBreak.2 else none

/-- Takes a directive after its percent sign. -/
def takeDirective? (cursor : Cursor) : Option (Token × Cursor) := do
  let name := cursor.rest.takeWhile isNameChar
  let cursor := cursor.advance name.length
  let value := cursor.skipWhile isSpace
  if !endsWord cursor.rest.head? then none
  else
    let (token, cursor) ←
      if name = "YAML".toList then takeVersion? value
      else if name = "TAG".toList then takeTagPrefix? value
      else none
    return (token, ← finishLine? cursor)

/-! ## The state between tokens -/

/-- A place at which a key without an indicator may have started. -/
structure PossibleKey where
  /-- The number of tokens before it. -/
  position : Nat
  index : Nat
  line : Nat
  column : Nat
  /-- Whether only a key may stand there. -/
  required : Bool

/-- The state between two tokens. -/
structure Scanner where
  cursor : Cursor
  /-- The tokens so far, the last one first. -/
  tokens : List Token := []
  /-- The column of the innermost block collection, and those of the collections around it. -/
  indent : Int := -1
  outer : List Int := []
  /-- The possible keys, one for each open flow collection and one for the block around them. -/
  keys : List (Option PossibleKey) := [none]
  /-- Whether a key without an indicator may start here. -/
  keyAllowed : Bool := true

namespace Scanner

/-- Whether the scanner is in a flow collection. -/
def inFlow (s : Scanner) : Bool :=
  1 < s.keys.length

/-- The state after one more token. -/
def push (s : Scanner) (token : Token) : Scanner :=
  { s with tokens := token :: s.tokens }

/-- The state with a token put among those so far, after the first `position` ones. -/
def pushAt (s : Scanner) (position : Nat) (token : Token) : Scanner :=
  let later := s.tokens.length - position
  { s with tokens := s.tokens.take later ++ token :: s.tokens.drop later }

/-- The state with the last possible key given up, unless only a key may stand there. -/
def dropKey? (s : Scanner) : Option Scanner :=
  match s.keys with
  | some key :: rest => if key.required then none else some { s with keys := none :: rest }
  | _ => some s

/-- The state in which a key may have started here. -/
def noteKey? (s : Scanner) : Option Scanner :=
  if s.keyAllowed then do
    let key : PossibleKey := {
      position := s.tokens.length
      index := s.cursor.index
      line := s.cursor.line
      column := s.cursor.column
      required := !s.inFlow && s.indent == s.cursor.column }
    let s ← s.dropKey?
    return { s with keys := some key :: s.keys.drop 1 }
  else some s

/-- The state without the possible keys that lie too far back: a key stays on one line and within
1024 characters. -/
def dropStaleKeys? (s : Scanner) : Option Scanner := do
  let keys ← s.keys.mapM fun (key : Option PossibleKey) =>
    match key with
    | some key =>
      if key.line < s.cursor.line ∨ key.index + 1024 < s.cursor.index then
        if key.required then none else some none
      else some (some key)
    | none => some none
  return { s with keys }

/-- The state in a block collection at a column: if the column lies deeper than the innermost
collection, a new one starts, before the tokens after the first `position` ones. -/
def openBlock (s : Scanner) (column : Nat) (position : Nat) (token : Token) : Scanner :=
  if !s.inFlow && s.indent < column then
    { s with indent := column, outer := s.indent :: s.outer }.pushAt position token
  else s

/-- The columns of the collections that are left when a text goes on at a column, and the number of
those that end. -/
def closed (column indent : Int) : List Int → Int × List Int × Nat
  | [] => (indent, [], 0)
  | next :: outer =>
    if column < indent then
      let (indent, outer, n) := closed column next outer
      (indent, outer, n + 1)
    else (indent, next :: outer, 0)

/-- The state after the end of the block collections that lie deeper than a column. -/
def closeBlocks (s : Scanner) (column : Int) : Scanner :=
  if s.inFlow then s
  else
    let (indent, outer, n) := closed column s.indent s.outer
    { s with indent, outer, tokens := List.replicate n .blockEnd ++ s.tokens }

/-- The state after blanks, comments and line breaks. The first argument bounds the number of
lines. -/
def skipToToken : Nat → Scanner → Scanner
  | 0, s => s
  | fuel + 1, s =>
    let cursor :=
      if s.cursor.index = 0 ∧ s.cursor.sees byteOrderMark then s.cursor.advance 1 else s.cursor
    let cursor := cursor.skipWhile fun c => c == ' ' || (s.inFlow || !s.keyAllowed) && c == '\t'
    let cursor := if cursor.sees '#' then cursor.skipWhile fun c => !isBreak c else cursor
    if cursor.seesBreak then
      skipToToken fuel
        { s with cursor := cursor.takeBreak.2, keyAllowed := s.keyAllowed || !s.inFlow }
    else { s with cursor }

/-! ## The kinds of tokens -/

/-- The state after a token that consists of some characters. -/
def take (s : Scanner) (length : Nat) (token : Token) : Scanner :=
  { s with cursor := s.cursor.advance length }.push token

/-- Takes a mark of a document's start or end. -/
def takeMarker? (s : Scanner) (token : Token) : Option Scanner := do
  let s ← (s.closeBlocks (-1)).dropKey?
  return { s with keyAllowed := false }.take 3 token

/-- Takes a directive. -/
def takeDirective? (s : Scanner) : Option Scanner := do
  let s ← (s.closeBlocks (-1)).dropKey?
  let (token, cursor) ← Yaml.takeDirective? (s.cursor.advance 1)
  return { s with keyAllowed := false, cursor }.push token

/-- Takes the start of a flow collection. -/
def openFlow? (s : Scanner) (token : Token) : Option Scanner := do
  let s ← s.noteKey?
  return { s with keys := none :: s.keys, keyAllowed := true }.take 1 token

/-- Takes the end of a flow collection. -/
def closeFlow? (s : Scanner) (token : Token) : Option Scanner := do
  let s ← s.dropKey?
  let keys := if s.inFlow then s.keys.drop 1 else s.keys
  return { s with keys, keyAllowed := false }.take 1 token

/-- Takes the comma of a flow collection. -/
def takeFlowEntry? (s : Scanner) : Option Scanner := do
  let s ← s.dropKey?
  return { s with keyAllowed := true }.take 1 .flowEntry

/-- Takes the indicator of an entry or a key, which may start a block collection. -/
def takeIndicator? (s : Scanner) (start token : Token) (keyAllowed : Bool) : Option Scanner :=
  if !s.inFlow && !s.keyAllowed then none
  else do
    let s ← (s.openBlock s.cursor.column s.tokens.length start).dropKey?
    return { s with keyAllowed }.take 1 token

/-- Takes the colon before a value, and puts the key before it in its place. -/
def takeValue? (s : Scanner) : Option Scanner :=
  match s.keys with
  | some key :: rest =>
    let s := { s with keys := none :: rest, keyAllowed := false }.pushAt key.position .key
    some ((s.openBlock key.column key.position .blockMappingStart).take 1 .value)
  | _ =>
    if !s.inFlow && !s.keyAllowed then none
    else
      let s := s.openBlock s.cursor.column s.tokens.length .blockMappingStart
      some ({ s with keyAllowed := !s.inFlow }.take 1 .value)

/-- Takes an alias or an anchor. -/
def takeNamed? (s : Scanner) (token : List Char → Token) : Option Scanner := do
  let s ← s.noteKey?
  let (name, cursor) ← takeName? (s.cursor.advance 1)
  return { s with keyAllowed := false, cursor }.push (token name)

/-- Takes a tag. -/
def takeTag? (s : Scanner) : Option Scanner := do
  let s ← s.noteKey?
  let (token, cursor) ← Yaml.takeTag? s.inFlow (s.cursor.advance 1)
  return { s with keyAllowed := false, cursor }.push token

/-- Takes a block scalar. -/
def takeBlock? (s : Scanner) (style : Style) : Option Scanner := do
  let s ← s.dropKey?
  let (text, cursor) ← Yaml.takeBlock? style s.indent (s.cursor.advance 1)
  return { s with keyAllowed := true, cursor }.push (.scalar style text)

/-- Takes a quoted scalar. -/
def takeQuoted? (s : Scanner) (quote : Char) : Option Scanner := do
  let s ← s.noteKey?
  let (text, cursor) ← Yaml.takeQuoted? quote (s.cursor.advance 1)
  return { s with keyAllowed := false, cursor }.push (.scalar .quoted text)

/-- Takes a plain scalar. -/
def takePlain? (s : Scanner) : Option Scanner := do
  let s ← s.noteKey?
  let (text, endsLine, cursor) ← Yaml.takePlain? s.inFlow (s.indent + 1).toNat s.cursor
  return { s with keyAllowed := endsLine, cursor }.push (.scalar .plain text)

/-- Whether a plain scalar may start with a character, given the one after it. -/
def startsPlain (inFlow : Bool) (c : Char) (next : Option Char) : Bool :=
  if c = '-' then !next.any isSpace
  else if c = '?' ∨ c = ':' then !inFlow && !endsWord next
  else !isSpace c && c ∉ leadingIndicators

/-- Takes the token that starts with a character. -/
def takeToken? (s : Scanner) (c : Char) (next : Option Char) : Option Scanner :=
  if s.cursor.column = 0 ∧ c = '%' then s.takeDirective?
  else if s.cursor.seesMarker "---" then s.takeMarker? .documentStart
  else if s.cursor.seesMarker "..." then s.takeMarker? .documentEnd
  else if c = '[' then s.openFlow? .flowSequenceStart
  else if c = '\x7b' then s.openFlow? .flowMappingStart
  else if c = ']' then s.closeFlow? .flowSequenceEnd
  else if c = '\x7d' then s.closeFlow? .flowMappingEnd
  else if c = ',' then s.takeFlowEntry?
  else if c = '-' ∧ endsWord next then s.takeIndicator? .blockSequenceStart .blockEntry true
  else if c = '?' ∧ (s.inFlow ∨ endsWord next) then
    s.takeIndicator? .blockMappingStart .key !s.inFlow
  else if c = ':' ∧ (s.inFlow ∨ endsWord next) then s.takeValue?
  else if c = '*' then s.takeNamed? .alias
  else if c = '&' then s.takeNamed? .anchor
  else if c = '!' then s.takeTag?
  else if c = '|' ∧ !s.inFlow then s.takeBlock? .literal
  else if c = '>' ∧ !s.inFlow then s.takeBlock? .folded
  else if c = '\'' ∨ c = '"' then s.takeQuoted? c
  else if startsPlain s.inFlow c next then s.takePlain?
  else none

/-- Takes all tokens. The first argument bounds their number. -/
def takeAll? : Nat → Scanner → Option Scanner
  | 0, _ => none
  | fuel + 1, s => do
    let s ← (s.skipToToken (s.cursor.rest.length + 1)).dropStaleKeys?
    match s.cursor.rest with
    | [] => (s.closeBlocks (-1)).dropKey?
    | c :: rest => takeAll? fuel (← (s.closeBlocks s.cursor.column).takeToken? c rest.head?)

end Scanner

/-- The tokens of a text. -/
def tokens? (text : List Char) : Option (List Token) :=
  if text.all isAllowed then
    (Scanner.takeAll? (text.length + 1) { cursor := { rest := text } }).map fun s =>
      s.tokens.reverse
  else none

end Footage.Yaml
