import Footage.Text.Hexadecimal
import Footage.Yaml.Token

/-!
# Scalars of YAML

A scalar is written plainly, in quotes or as a block of lines. In plain and quoted scalars a line
break stands for a space, and further line breaks stand for themselves; in a literal block all line
breaks do.
-/

namespace Footage.Yaml

open Text

/-! ## Gaps -/

/-- What stands between two words of a scalar: blanks on one line, or line breaks. -/
inductive Gap where
  | blanks (text : List Char)
  | breaks (first more : List Char)

namespace Gap

/-- The text for which a gap stands. -/
def text : Gap → List Char
  | blanks text => text
  | breaks first more =>
    if first ≠ ['\n'] then first ++ more else if more.isEmpty then [' '] else more

/-- Whether a gap reaches over the end of a line. -/
def isBroken : Gap → Bool
  | blanks _ => false
  | breaks _ _ => true

/-- Takes the rest of a gap. A tab may not stand at the start of a line before the column
`indent`. The first argument bounds the number of steps. -/
def takeFrom (indent : Nat) : Nat → Gap → Cursor → Option (Gap × Cursor)
  | 0, gap, cursor => some (gap, cursor)
  | fuel + 1, gap, cursor =>
    match cursor.rest with
    | [] => some (gap, cursor)
    | c :: _ =>
      if isSpace c then
        match gap with
        | .blanks text => takeFrom indent fuel (.blanks (text ++ [c])) (cursor.advance 1)
        | .breaks _ _ =>
          if c = '\t' ∧ cursor.column < indent then none
          else takeFrom indent fuel gap (cursor.advance 1)
      else if isBreak c then
        let (lineBreak, next) := cursor.takeBreak
        match gap with
        | .blanks _ => takeFrom indent fuel (.breaks lineBreak []) next
        | .breaks first more => takeFrom indent fuel (.breaks first (more ++ lineBreak)) next
      else some (gap, cursor)

/-- Takes a gap. -/
def take (indent : Nat) (start : Gap) (cursor : Cursor) : Option (Gap × Cursor) :=
  takeFrom indent cursor.rest.length start cursor

end Gap

/-! ## Plain scalars -/

/-- The characters that end a plain scalar in a flow collection. -/
def flowIndicators : List Char := [',', '[', ']', '\x7b', '\x7d']

/-- The word at the start of a text, up to a blank or an indicator that ends a plain scalar. -/
def plainWord? (inFlow : Bool) : List Char → Option (List Char)
  | [] => some []
  | c :: rest =>
    if isSpace c || isBreak c then some []
    else if c = ':' ∧ inFlow ∧ rest.head?.any (fun d => d = '?' ∨ d ∈ flowIndicators) then none
    else if c = ':' ∧ endsWord rest.head? then some []
    else if inFlow ∧ c ∈ flowIndicators then some []
    else (plainWord? inFlow rest).map (c :: ·)

/-- Takes the words of a plain scalar after a gap, with the gap that was left over. In a block, a
scalar ends where a line starts before the column `indent`. The first argument bounds the number
of steps. -/
def takePlainFrom (inFlow : Bool) (indent : Nat) :
    Nat → List Char → Gap → Cursor → Option (List Char × Gap × Cursor)
  | 0, text, gap, cursor => some (text, gap, cursor)
  | fuel + 1, text, gap, cursor =>
    if cursor.seesDocumentMarker || cursor.sees '#' then some (text, gap, cursor)
    else
      match plainWord? inFlow cursor.rest with
      | none => none
      | some [] => some (text, gap, cursor)
      | some word =>
        match Gap.take indent (.blanks []) (cursor.advance word.length) with
        | none => none
        | some (next, cursor) =>
          let text := text ++ gap.text ++ word
          if !inFlow && cursor.column < indent then some (text, next, cursor)
          else takePlainFrom inFlow indent fuel text next cursor

/-- Takes a plain scalar. The second part of the result says whether it reaches over the end of its
last line. -/
def takePlain? (inFlow : Bool) (indent : Nat) (cursor : Cursor) :
    Option (List Char × Bool × Cursor) :=
  (takePlainFrom inFlow indent (cursor.rest.length + 1) [] (.blanks []) cursor).map
    fun (text, gap, cursor) => (text, gap.isBroken, cursor)

/-! ## Quoted scalars -/

/-- The words of a quoted scalar up to a blank or the final quote, with the number of characters
they take, and whether they end with an escaped line break. -/
structure QuotedWord where
  text : List Char := []
  length : Nat := 0
  escapesBreak : Bool := false

/-- The word at the start of a text in single quotes. Two quotes stand for one. -/
def singleWord : List Char → QuotedWord
  | [] => {}
  | '\'' :: '\'' :: rest =>
    let word := singleWord rest
    { word with text := '\'' :: word.text, length := word.length + 2 }
  | c :: rest =>
    if isSpace c || isBreak c || c = '\'' then {}
    else
      let word := singleWord rest
      { word with text := c :: word.text, length := word.length + 1 }

/-- The character that a short escape stands for. -/
def shortEscape? : Char → Option Char
  | '0' => some '\x00'
  | 'a' => some '\x07'
  | 'b' => some '\x08'
  | 't' | '\t' => some '\t'
  | 'n' => some '\n'
  | 'v' => some '\x0b'
  | 'f' => some '\x0c'
  | 'r' => some '\r'
  | 'e' => some '\x1b'
  | ' ' => some ' '
  | '"' => some '"'
  | '/' => some '/'
  | '\\' => some '\\'
  | 'N' => some (Char.ofNat 0x85)
  | '_' => some (Char.ofNat 0xA0)
  | 'L' => some (Char.ofNat 0x2028)
  | 'P' => some (Char.ofNat 0x2029)
  | _ => none

/-- The number of hexadecimal digits after the letter of a long escape. -/
def escapeWidth? : Char → Option Nat
  | 'x' => some 2
  | 'u' => some 4
  | 'U' => some 8
  | _ => none

/-- The character that an escape stands for, and the number of characters after its backslash. -/
def escaped? : List Char → Option (Char × Nat)
  | [] => none
  | c :: rest =>
    match escapeWidth? c with
    | none => (shortEscape? c).map (·, 1)
    | some width =>
      let digits := rest.take width
      let n := hexNumber digits
      if digits.length = width ∧ digits.all isHexDigit ∧ n.isValidChar then
        some (Char.ofNat n, width + 1)
      else none

/-- The word at the start of a text in double quotes. The first argument bounds the number of
steps. -/
def doubleWord? : Nat → List Char → Option QuotedWord
  | 0, _ | _, [] => some {}
  | fuel + 1, '\\' :: rest =>
    if rest.head?.any isBreak then some { length := 1, escapesBreak := true }
    else do
      let (c, length) ← escaped? rest
      let word ← doubleWord? fuel (rest.drop length)
      return { word with text := c :: word.text, length := word.length + length + 1 }
  | fuel + 1, c :: rest =>
    if isSpace c || isBreak c || c = '"' then some {}
    else do
      let word ← doubleWord? fuel rest
      return { word with text := c :: word.text, length := word.length + 1 }

/-- The word at the start of a text in the given quotes. -/
def quotedWord? (quote : Char) (text : List Char) : Option QuotedWord :=
  if quote = '\'' then some (singleWord text) else doubleWord? text.length text

/-- Takes the rest of a quoted scalar after the text read so far. The first argument bounds the
number of steps. -/
def takeQuotedFrom (quote : Char) : Nat → List Char → Cursor → Option (List Char × Cursor)
  | 0, _, _ => none
  | fuel + 1, text, cursor =>
    if cursor.seesDocumentMarker || cursor.rest.isEmpty then none
    else do
      let word ← quotedWord? quote cursor.rest
      let cursor := cursor.advance word.length
      let text := text ++ word.text
      if cursor.sees quote && !word.escapesBreak then return (text, cursor.advance 1)
      let (start, cursor) :=
        if word.escapesBreak then (Gap.breaks [] [], cursor.takeBreak.2)
        else (Gap.blanks [], cursor)
      let (gap, cursor) ← Gap.take 0 start cursor
      takeQuotedFrom quote fuel (text ++ gap.text) cursor

/-- Takes a quoted scalar after its first quote. -/
def takeQuoted? (quote : Char) (cursor : Cursor) : Option (List Char × Cursor) :=
  takeQuotedFrom quote (cursor.rest.length + 1) [] cursor

/-! ## Block scalars -/

/-- What becomes of the line breaks at the end of a block. -/
inductive Chomping where
  | strip
  /-- The first one is kept. -/
  | clip
  | keep
  deriving DecidableEq

/-- The header of a block: its chomping, its indentation if that is given, and its length. -/
def blockHeader? (text : List Char) : Option (Chomping × Option Nat × Nat) :=
  let sign? (c : Char) : Option Chomping :=
    if c = '+' then some .keep else if c = '-' then some .strip else none
  let digit? (c : Char) : Option Nat :=
    if c.isDigit ∧ c ≠ '0' then some (c.toNat - 48) else none
  match text.takeWhile fun c => c == '+' || c == '-' || c.isDigit with
  | [] => some (.clip, none, 0)
  | [c] =>
    match sign? c, digit? c with
    | some chomping, _ => some (chomping, none, 1)
    | none, some n => some (.clip, some n, 1)
    | none, none => none
  | [c, d] =>
    match sign? c, digit? d, digit? c, sign? d with
    | some chomping, some n, _, _ | _, _, some n, some chomping => some (chomping, some n, 2)
    | _, _, _, _ => none
  | _ => none

/-- Takes the indentation of a line and the empty lines before it. Without a known indentation the
deepest column that was reached is found as well. The second argument bounds the number of
steps. -/
def takeIndentation (indent : Option Nat) :
    Nat → Nat → List Char → Cursor → Option (Nat × List Char × Cursor)
  | 0, deepest, breaks, cursor => some (deepest, breaks, cursor)
  | fuel + 1, deepest, breaks, cursor =>
    let spaces := (cursor.rest.takeWhile (· == ' ')).length
    let cursor := cursor.advance (match indent with
      | some n => min spaces (n - cursor.column)
      | none => spaces)
    let deepest := max deepest cursor.column
    if indent.all (cursor.column < ·) && cursor.sees '\t' then none
    else if cursor.seesBreak then
      let (lineBreak, cursor) := cursor.takeBreak
      takeIndentation indent fuel deepest (breaks ++ lineBreak) cursor
    else some (deepest, breaks, cursor)

/-- Whether a line break between two lines of a block stands for a space. -/
def isFolded (style : Style) (lineBreak : List Char) (afterBlank beforeBlank : Bool) : Bool :=
  style == .folded && lineBreak == ['\n'] && !afterBlank && !beforeBlank

/-- Takes the lines of a block after the text read so far, the line break after it and the empty
lines after that. The second argument bounds the number of steps. -/
def takeLines (style : Style) (chomping : Chomping) (indent : Nat) :
    Nat → List Char → List Char → List Char → Bool → Cursor → Option (List Char × Cursor)
  | 0, _, _, _, _, _ => none
  | fuel + 1, text, lineBreak, empty, afterBlank, cursor =>
    if cursor.column = indent ∧ !cursor.rest.isEmpty then do
      let startsBlank := cursor.rest.head?.any isSpace
      let joint :=
        if isFolded style lineBreak afterBlank startsBlank then
          if empty.isEmpty then [' '] else []
        else lineBreak
      let line := cursor.rest.takeWhile fun c => !isBreak c
      let (lineBreak, cursor) := (cursor.advance line.length).takeBreak
      let (_, next, cursor) ← takeIndentation (some indent) cursor.rest.length 0 [] cursor
      takeLines style chomping indent fuel (text ++ joint ++ empty ++ line) lineBreak next
        startsBlank cursor
    else
      some (match chomping with
        | .strip => (text, cursor)
        | .clip => (text ++ lineBreak, cursor)
        | .keep => (text ++ lineBreak ++ empty, cursor))

/-- Takes a block scalar after its indicator, in a collection that starts at the column `parent`. -/
def takeBlock? (style : Style) (parent : Int) (cursor : Cursor) :
    Option (List Char × Cursor) := do
  let (chomping, given, length) ← blockHeader? cursor.rest
  let cursor := (cursor.advance length).skipWhile isSpace
  let cursor := if cursor.sees '#' then cursor.skipWhile fun c => !isBreak c else cursor
  if !cursor.rest.isEmpty && !cursor.seesBreak then none
  else
    let cursor := cursor.takeBreak.2
    let known := given.map fun n => (max parent 0).toNat + n
    let (deepest, empty, cursor) ← takeIndentation known cursor.rest.length 0 [] cursor
    let indent := known.getD (max deepest (max (parent + 1).toNat 1))
    takeLines style chomping indent (cursor.rest.length + 1) [] [] empty false cursor

end Footage.Yaml
