import Footage.Pattern.Syntax
import Footage.Text.Blank
import Footage.Text.Decimal
import Footage.Text.DecimalDigit
import Footage.Text.Hexadecimal
import Footage.Text.Substring
import Footage.Text.WordChar

/-!
# Reading patterns

The syntax of regular expressions without look-around and back-references. In verbose patterns,
blanks and comments may stand between the parts.
-/

namespace Footage.Pattern

open Text

/-- What is left to read, and what is known about the pattern so far. -/
structure ReadState where
  rest : List Char
  verbose : Bool := false
  groups : Nat := 0
  names : List (List Char) := []

/-- Reads a piece of a pattern, or finds that the text is no pattern. -/
abbrev Reader := StateT ReadState Option

/-- The text without the blanks and comments at its start. The first argument tells whether it
starts in a comment. -/
def dropComments : Bool → List Char → List Char
  | _, [] => []
  | true, c :: rest => dropComments (c != '\n') rest
  | false, c :: rest =>
    if isBlank c then dropComments false rest
    else if c = '#' then dropComments true rest
    else c :: rest

namespace Reader

/-- The next character. -/
def peek : Reader (Option Char) := do
  return (← get).rest.head?

/-- The next character, which must exist. -/
def demand : Reader Char := do
  match ← peek with
  | some c => return c
  | none => failure

/-- Goes past the next character. -/
def advance : Reader Unit :=
  modify fun state => { state with rest := state.rest.drop 1 }

/-- Goes past blanks and comments, if the pattern is verbose. -/
def skip : Reader Unit :=
  modify fun state =>
    if state.verbose then { state with rest := dropComments false state.rest } else state

/-- Goes past the next character and what may be skipped after it. -/
def advanceSkip : Reader Unit := do
  advance
  skip

/-- Goes past a given text, if it comes next. -/
def accept (text : String) : Reader Bool := do
  match after? text.toList (← get).rest with
  | some rest =>
    modify fun state => { state with rest }
    return true
  | none => return false

/-- Goes past a character, which must come next. -/
def expect (c : Char) : Reader Unit := do
  if (← demand) = c then advance else failure

/-- Takes the characters up to the first one that fails the test, skipping between them. The
first argument bounds their number. -/
def takeSkipping (test : Char → Bool) : Nat → Reader (List Char)
  | 0 => return []
  | fuel + 1 => do
    match ← peek with
    | some c =>
      if test c then
        advanceSkip
        return c :: (← takeSkipping test fuel)
      else return []
    | none => return []

/-- The length of what is left to read. -/
def remaining : Reader Nat := do
  return (← get).rest.length

/-! ## Numbers and escapes -/

/-- The character with a given code point. -/
def ofCode (n : Nat) : Reader Char :=
  if n.isValidChar then return Char.ofNat n else failure

/-- Takes a number of hexadecimal digits, skipping between them. -/
def takeHex : Nat → Reader (List Char)
  | 0 => return []
  | n + 1 => do
    let c ← demand
    if isHexDigit c then
      advanceSkip
      return c :: (← takeHex n)
    else failure

/-- Reads the digits of a character's code, with braces or in a fixed number. -/
def readCode (width : Nat) : Reader Syntax := do
  if (← demand) = '{' then
    advanceSkip
    let digits ← takeSkipping isHexDigit (← remaining)
    if (← demand) ≠ '}' ∨ digits.isEmpty then failure
    advanceSkip
    return .literal (← ofCode (hexNumber digits))
  else
    let c ← ofCode (hexNumber (← takeHex width))
    return if width = 2 then .byte c else .literal c

/-- Reads a decimal number of 32 bits, with blanks around it. -/
def readCount? : Reader (Option Nat) := do
  modify fun state => { state with rest := trimStart state.rest }
  let digits ← takeSkipping Char.isDigit (← remaining)
  modify fun state => { state with rest := trimStart state.rest }
  skip
  if digits.isEmpty then return none
  let n := digitsValue digits
  if n < UInt32.size then return some n else failure

/-- Reads the name of a property, in braces or of one letter. -/
def readProperty (negated : Bool) : Reader Syntax := do
  let c ← demand
  if c = '{' then
    advanceSkip
    let name ← takeSkipping (· ≠ '}') (← remaining)
    expect '}'
    return .named negated (.property (String.ofList name))
  else if c = '\\' then failure
  else
    advanceSkip
    return .named negated (.property (String.singleton c))

/-- The word boundary with a given name. -/
def wordSide? (name : List Char) : Option WordSide :=
  if name = "start".toList then some .start
  else if name = "end".toList then some .finish
  else if name = "start-half".toList then some .startHalf
  else if name = "end-half".toList then some .finishHalf
  else none

/-- Reads what may stand in braces after the mark of a word boundary. Braces that hold no name
are left to be read as a repetition. -/
def readWordSide : Reader WordSide := do
  let isNamePart (c : Char) : Bool := c.isAlpha || c == '-'
  let before ← get
  if (← peek) = some '{' then
    advanceSkip
    if isNamePart (← demand) then
      let name ← takeSkipping isNamePart (← remaining)
      expect '}'
      match wordSide? name with
      | some side => return side
      | none => failure
    else
      set before
      return .edge
  else return .edge

/-- The character that a letter stands for after a backslash. -/
def controlEscape? : Char → Option Char
  | 'a' => some '\x07'
  | 'f' => some '\x0c'
  | 't' => some '\t'
  | 'n' => some '\n'
  | 'r' => some '\r'
  | 'v' => some '\x0b'
  | _ => none

/-- The class that a letter names after a backslash, and whether it is negated. -/
def classEscape? : Char → Option (Bool × NamedClass)
  | 'd' => some (false, .digit)
  | 's' => some (false, .space)
  | 'w' => some (false, .word)
  | 'D' => some (true, .digit)
  | 'S' => some (true, .space)
  | 'W' => some (true, .word)
  | _ => none

/-- The assertion that a character names after a backslash. -/
def anchorEscape? : Char → Option Anchor
  | 'A' => some .textStart
  | 'z' => some .textEnd
  | 'B' => some (.word .apart)
  | '<' => some (.word .start)
  | '>' => some (.word .finish)
  | _ => none

/-- Whether a character stands for itself after a backslash. -/
def isEscapable (c : Char) : Bool :=
  c.toNat < 128 && !c.isAlphanum && c ≠ '<' && c ≠ '>'

/-- Reads an escape. -/
def readEscape : Reader Syntax := do
  advance
  let c ← demand
  match c with
  | 'x' => advanceSkip; readCode 2
  | 'u' => advanceSkip; readCode 4
  | 'U' => advanceSkip; readCode 8
  | 'p' => advanceSkip; readProperty false
  | 'P' => advanceSkip; readProperty true
  | _ =>
    advance
    if c = 'b' then return .anchor (.word (← readWordSide))
    if isEscapable c then return .literal c
    match controlEscape? c, classEscape? c, anchorEscape? c with
    | some control, _, _ => return .literal control
    | _, some (negated, name), _ => return .named negated name
    | _, _, some anchor => return .anchor anchor
    | none, none, none => failure

/-! ## Classes -/

/-- The names of the ASCII classes. -/
def asciiClassNames : List String :=
  ["alnum", "alpha", "ascii", "blank", "cntrl", "digit", "graph", "lower", "print", "punct",
    "space", "upper", "word", "xdigit"]

/-- Reads an ASCII class, which is a name between colons in brackets. -/
def asciiClass? : Reader (Option ClassItem) := do
  let before ← get
  if ← accept "[:" then
    let negated ← accept "^"
    let name := String.ofList ((← get).rest.takeWhile (· ≠ ':'))
    modify fun state => { state with rest := state.rest.dropWhile (· ≠ ':') }
    if asciiClassNames.contains name && (← accept ":]") then
      return some (.named negated (.ascii name))
  set before
  return none

/-- Reads one character or escape of a class. -/
def readClassPrimitive : Reader Syntax := do
  let c ← demand
  if c = '\\' then readEscape
  else
    advance
    return .literal c

/-- The character that a piece of a class stands for. -/
def classLiteral : Syntax → Reader Char
  | .literal c | .byte c => return c
  | _ => failure

/-- The part of a class that a piece stands for. -/
def classItem : Syntax → Reader ClassItem
  | .literal c | .byte c => return .literal c
  | .named negated name => return .named negated name
  | _ => failure

/-- Reads a character, a range or an escape in a class. -/
def readRange : Reader ClassItem := do
  let first ← readClassPrimitive
  skip
  if (← demand) ≠ '-' then classItem first
  else
    let state ← get
    let rest := state.rest.drop 1
    let next := (if state.verbose then dropComments false rest else rest).head?
    if next = some ']' ∨ next = some '-' then classItem first
    else
      advanceSkip
      let last ← classLiteral (← readClassPrimitive)
      let first ← classLiteral first
      if first ≤ last then return .range first last else failure

/-- The part of a class that several parts make up together. -/
def unionAll : List ClassItem → ClassItem
  | [] => .empty
  | [item] => item
  | item :: next :: items => .union item (unionAll (next :: items))

/-- Reads the hyphens at the start of a class. -/
def readHyphens : Nat → Reader (List ClassItem)
  | 0 => return []
  | fuel + 1 => do
    if (← demand) = '-' then
      advanceSkip
      return .literal '-' :: (← readHyphens fuel)
    else return []

/-- The operator that comes next in a class. -/
def classOp? : Reader (Option ClassOp) := do
  if ← accept "&&" then return some .inter
  else if ← accept "--" then return some .diff
  else if ← accept "~~" then return some .symmDiff
  else return none

mutual

/-- Reads a class in brackets. -/
def readBracketed : Nat → Reader (Bool × ClassItem)
  | 0 => failure
  | fuel + 1 => do
    advanceSkip
    let negated := (← demand) = '^'
    if negated then advanceSkip
    let hyphens ← readHyphens (← remaining)
    if hyphens.isEmpty && (← demand) = ']' then
      advanceSkip
      return (negated, ← readClassItems fuel id [.literal ']'])
    else return (negated, ← readClassItems fuel id hyphens.reverse)

/-- Reads the inside of a class to its closing bracket. The parts are given last first, and
`combine` joins them to what stands before the last operator. -/
def readClassItems : Nat → (ClassItem → ClassItem) → List ClassItem → Reader ClassItem
  | 0, _, _ => failure
  | fuel + 1, combine, items => do
    skip
    match ← demand with
    | '[' =>
      match ← asciiClass? with
      | some item => readClassItems fuel combine (item :: items)
      | none =>
        let (negated, item) ← readBracketed fuel
        readClassItems fuel combine (.bracketed negated item :: items)
    | ']' =>
      advance
      return combine (unionAll items.reverse)
    | _ =>
      match ← classOp? with
      | some op =>
        let left := combine (unionAll items.reverse)
        readClassItems fuel (.combined op left) []
      | none => readClassItems fuel combine ((← readRange) :: items)

end

/-! ## Groups and repetitions -/

/-- The flag that a letter switches. -/
def flag? : Char → Option Flag
  | 'i' => some .ignoreCase
  | 'm' => some .multiLine
  | 's' => some .dotAll
  | 'U' => some .swapGreed
  | 'u' => some .unicode
  | 'R' => some .crlf
  | 'x' => some .verbose
  | _ => none

/-- Reads flags up to the sign that ends them. No flag occurs twice, and a minus sign has flags
after it. -/
def readFlags : Nat → Bool → FlagChange → Reader FlagChange
  | 0, _, _ => failure
  | fuel + 1, negative, change => do
    let c ← demand
    if c = ':' ∨ c = ')' then
      if negative ∧ change.all Prod.snd then failure
      return change
    else if c = '-' then
      if negative then failure
      advance
      readFlags fuel true change
    else
      match flag? c with
      | some flag =>
        if change.any (·.1 = flag) then failure
        advance
        readFlags fuel negative (change ++ [(flag, !negative)])
      | none => failure

/-- The setting of a flag after a change. -/
def setting (change : FlagChange) (flag : Flag) (before : Bool) : Bool :=
  match change.find? (·.1 = flag) with
  | some (_, on) => on
  | none => before

/-- Reads the name of a group up to the bracket that ends it. No two groups have one name. -/
def readName : Reader Unit := do
  let name := (← get).rest.takeWhile (· ≠ '>')
  modify fun state => { state with rest := state.rest.drop name.length }
  expect '>'
  let isFirst (c : Char) : Bool := c == '_' || (isWordChar c && !isDecimalDigit c)
  let isLater (c : Char) : Bool := isWordChar c || c ∈ ['.', '[', ']']
  match name with
  | [] => failure
  | c :: rest =>
    if isFirst c && rest.all isLater && !(← get).names.contains name then
      modify fun state => { state with names := name :: state.names }
    else failure

/-- The part before a repetition sign and the parts before that. -/
def repeatable : List Syntax → Reader (Syntax × List Syntax)
  | [] | .flags _ :: _ | .empty :: _ => failure
  | part :: parts => return (part, parts)

/-- Reads the sign that makes a repetition lazy. -/
def readGreed : Reader Bool := do
  if (← peek) = some '?' then
    advance
    return false
  else return true

/-- Reads the bounds of a repetition in braces. -/
def readBounds : Reader (Nat × Option Nat) := do
  advanceSkip
  let some least ← readCount? | failure
  if (← demand) = ',' then
    advanceSkip
    if (← demand) = '}' then return (least, none)
    else
      let some most ← readCount? | failure
      if least ≤ most then return (least, some most) else failure
  else return (least, some least)

/-- Reads the opening of a group: a change of flags for what follows, or what turns the body of
the group into a part. -/
def readOpening : Reader (FlagChange ⊕ (Syntax → Syntax)) := do
  advanceSkip
  for sign in ["?=", "?!", "?<=", "?<!"] do
    if ← accept sign then failure
  let capture : Reader Nat := do
    modify fun state => { state with groups := state.groups + 1 }
    return (← get).groups
  if (← accept "?P<") || (← accept "?<") then
    let index ← capture
    readName
    return .inr (.capture index)
  else if ← accept "?" then
    let change ← readFlags (← remaining) false []
    let ending ← demand
    advance
    if ending = ')' then
      if change.isEmpty then failure
      return .inl change
    else return .inr (.group change)
  else
    let index ← capture
    return .inr (.capture index)

/-- The flags that the opening of a group changes. -/
def openedFlags (close : Syntax → Syntax) : FlagChange :=
  match close .empty with
  | .group change _ => change
  | _ => []

mutual

/-- Reads alternatives up to the end of the group or of the pattern. -/
def readOptions : Nat → List Syntax → Reader Syntax
  | 0, _ => failure
  | fuel + 1, options => do
    let option ← readParts fuel []
    if (← peek) = some '|' then
      advance
      readOptions fuel (option :: options)
    else return .alternateAll (option :: options).reverse

/-- Reads the parts of one alternative. The parts so far are given last first. -/
def readParts : Nat → List Syntax → Reader Syntax
  | 0, _ => failure
  | fuel + 1, parts => do
    skip
    match ← peek with
    | none | some '|' | some ')' => return .concatAll parts.reverse
    | some '(' =>
      match ← readOpening with
      | .inl change =>
        modify fun state => { state with verbose := setting change .verbose state.verbose }
        readParts fuel (.flags change :: parts)
      | .inr close =>
        let outer := (← get).verbose
        modify fun state =>
          { state with verbose := setting (openedFlags close) .verbose state.verbose }
        let body ← readOptions fuel []
        expect ')'
        modify fun state => { state with verbose := outer }
        readParts fuel (close body :: parts)
    | some '[' =>
      let (negated, item) ← readBracketed (2 * (← remaining))
      readParts fuel (.bracketed negated item :: parts)
    | some '{' =>
      let (part, parts) ← repeatable parts
      let (least, most) ← readBounds
      if (← demand) ≠ '}' then failure
      advanceSkip
      let greedy ← readGreed
      readParts fuel (.repeated least most greedy part :: parts)
    | some '?' => readSign fuel parts 0 (some 1)
    | some '*' => readSign fuel parts 0 none
    | some '+' => readSign fuel parts 1 none
    | some '\\' => readParts fuel ((← readEscape) :: parts)
    | some c =>
      advance
      let part : Syntax :=
        if c = '.' then .dot
        else if c = '^' then .anchor .lineStart
        else if c = '$' then .anchor .lineEnd
        else .literal c
      readParts fuel (part :: parts)

/-- Reads a repetition sign and the parts after it. -/
def readSign : Nat → List Syntax → Nat → Option Nat → Reader Syntax
  | 0, _, _, _ => failure
  | fuel + 1, parts, least, most => do
    let (part, parts) ← repeatable parts
    advance
    let greedy ← readGreed
    readParts fuel (.repeated least most greedy part :: parts)

end

end Reader

/-- How deeply the items of a class are nested. -/
def ClassItem.nesting : ClassItem → Nat
  | .union left right =>
    max (left.nesting + 1)
      (match right with
      | .union _ _ => right.nesting
      | _ => right.nesting + 1)
  | .combined _ left right => max left.nesting right.nesting + 1
  | .bracketed _ item => item.nesting + 1
  | _ => 0

/-- How deeply the parts of a pattern are nested. -/
def Syntax.nesting : Syntax → Nat
  | .concat left right =>
    max (left.nesting + 1)
      (match right with
      | .concat _ _ => right.nesting
      | _ => right.nesting + 1)
  | .alternate left right =>
    max (left.nesting + 1)
      (match right with
      | .alternate _ _ => right.nesting
      | _ => right.nesting + 1)
  | .bracketed _ item => item.nesting + 1
  | .repeated _ _ _ body | .capture _ body | .group _ body => body.nesting + 1
  | _ => 0

/-- The deepest nesting that a pattern may have. -/
def maxNesting : Nat := 250

/-- Reads a pattern. -/
def Syntax.read? (text : List Char) : Option Syntax := do
  let (tree, state) ← (Reader.readOptions (4 * text.length + 4) []).run { rest := text }
  if state.rest.isEmpty ∧ tree.nesting ≤ maxNesting then some tree else none

end Footage.Pattern
