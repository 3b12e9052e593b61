import Footage.Markup.Doctype
import Footage.Markup.Entity
import Footage.Text.Decimal

/-!
# Scanning markup

Text is cut into tokens from left to right. How it is cut depends on the mode that the last start
tag has switched to: the content of some elements is text without tags.
-/

namespace Footage.Markup

open Text

/-! ## Character references -/

/-- The characters that references to control characters stand for. -/
def controlCodes : List (Nat × Nat) :=
  [(0x80, 0x20AC), (0x82, 0x201A), (0x83, 0x0192), (0x84, 0x201E), (0x85, 0x2026), (0x86, 0x2020),
    (0x87, 0x2021), (0x88, 0x02C6), (0x89, 0x2030), (0x8A, 0x0160), (0x8B, 0x2039),
    (0x8C, 0x0152), (0x8E, 0x017D), (0x91, 0x2018), (0x92, 0x2019), (0x93, 0x201C),
    (0x94, 0x201D), (0x95, 0x2022), (0x96, 0x2013), (0x97, 0x2014), (0x98, 0x02DC),
    (0x99, 0x2122), (0x9A, 0x0161), (0x9B, 0x203A), (0x9C, 0x0153), (0x9E, 0x017E),
    (0x9F, 0x0178)]

/-- The character that a numeric reference stands for. -/
def referredChar (n : Nat) : Char :=
  match controlCodes.lookup n with
  | some code => Char.ofNat code
  | none => if n = 0 ∨ ¬n.isValidChar then Char.ofNat 0xFFFD else Char.ofNat n

/-- Takes the digits of a numeric reference and the semicolon that may follow them. -/
def takeNumeric? (isDigit : Char → Bool) (number : List Char → Nat) (text : List Char) :
    Option (List Char × List Char) :=
  let digits := text.takeWhile isDigit
  if digits.isEmpty then none
  else
    let rest := text.drop digits.length
    some ([referredChar (number digits)], if rest.head? = some ';' then rest.drop 1 else rest)

/-- Takes a character reference after its ampersand. In an attribute, a name without a semicolon
is no reference if a letter, a digit or an equals sign follows it. -/
def takeReference? (inAttribute : Bool) (text : List Char) : Option (List Char × List Char) :=
  match text with
  | '#' :: 'x' :: rest | '#' :: 'X' :: rest => takeNumeric? isHexDigit hexNumber rest
  | '#' :: rest => takeNumeric? Char.isDigit digitsValue rest
  | _ =>
    match entityAt? text with
    | none => none
    | some (name, chars) =>
      let rest := text.drop name.length
      let goesOn := rest.head?.any fun c => c == '=' || c.isAlphanum
      if inAttribute && name.getLast? != some ';' && goesOn then none else some (chars, rest)

/-- The value of an attribute as it is written, with its references resolved. The first argument
bounds the number of steps. -/
def resolveValue : Nat → List Char → List Char
  | 0, _ | _, [] => []
  | fuel + 1, '&' :: rest =>
    match takeReference? true rest with
    | some (chars, rest) => chars ++ resolveValue fuel rest
    | none => '&' :: resolveValue fuel rest
  | fuel + 1, c :: rest => (if c = '\x00' then Char.ofNat 0xFFFD else c) :: resolveValue fuel rest

/-! ## Tags -/

/-- A name in lower case with the null characters replaced. -/
def lowerName (text : List Char) : String :=
  String.ofList (Doctype.replaceNull (text.map Char.toLower))

/-- Whether a character ends the name of an attribute. -/
def endsAttributeName (c : Char) : Bool :=
  isTagSpace c || c == '/' || c == '>' || c == '='

/-- Whether a character ends a value without quotes. -/
def endsBareValue (c : Char) : Bool :=
  isTagSpace c || c == '>'

/-- Takes a value after its equals sign, unless the text ends before the value does. -/
def takeValue? (text : List Char) : Option (List Char × List Char) :=
  match text.dropWhile isTagSpace with
  | [] => none
  | c :: rest =>
    if c = '"' ∨ c = '\'' then
      let value := rest.takeWhile (· ≠ c)
      match rest.drop value.length with
      | [] => none
      | _ :: rest => some (value, rest)
    else
      let value := (c :: rest).takeWhile fun c => !endsBareValue c
      some (value, (c :: rest).drop value.length)

/-- An attribute of a written name and value. -/
def Attribute.ofWritten (name value : List Char) : Attribute :=
  ⟨lowerName name, String.ofList (resolveValue value.length value)⟩

/-- The attributes with another one, unless they hold one of that name. The last comes first. -/
def addAttribute (added : Attribute) (attributes : List Attribute) : List Attribute :=
  if attributes.any fun other => other.name == added.name then attributes else added :: attributes

/-- Takes attributes and the end of a tag, unless the text ends before the tag does. The first
argument bounds the number of attributes; those so far are given last first. -/
def takeAttributes? : Nat → List Attribute → List Char →
    Option (List Attribute × Bool × List Char)
  | 0, _, _ => none
  | fuel + 1, attributes, text =>
    match text.dropWhile isTagSpace with
    | [] => none
    | '>' :: rest => some (attributes.reverse, false, rest)
    | '/' :: '>' :: rest => some (attributes.reverse, true, rest)
    | '/' :: rest => takeAttributes? fuel attributes rest
    | c :: rest =>
      let name := c :: rest.takeWhile fun c => !endsAttributeName c
      match ((c :: rest).drop name.length).dropWhile isTagSpace with
      | '=' :: rest =>
        match takeValue? rest with
        | none => none
        | some (value, rest) =>
          takeAttributes? fuel (addAttribute (.ofWritten name value) attributes) rest
      | rest => takeAttributes? fuel (addAttribute (.ofWritten name []) attributes) rest

/-- The tokens cut off a text, and the text after them. -/
abbrev Cut := List Token × List Char

/-- Cuts a tag whose name starts the text. A tag that the text does not complete is dropped. -/
def cutTag (isEnd : Bool) (text : List Char) : Cut :=
  let name := text.takeWhile fun c => !(isTagSpace c || c == '/' || c == '>')
  match takeAttributes? (text.length + 1) [] (text.drop name.length) with
  | none => ([], [])
  | some (attributes, selfClosing, rest) =>
    if isEnd then ([.finish (lowerName name)], rest)
    else ([.start ⟨lowerName name, attributes, selfClosing⟩], rest)

/-! ## Comments and declarations -/

/-- A comment with the given content. -/
def commentOf (content : List Char) : Token :=
  .comment (String.ofList (Doctype.replaceNull content))

/-- Cuts a malformed declaration, which counts as a comment. -/
def cutDeclaration (text : List Char) : Cut :=
  let content := text.takeWhile (· ≠ '>')
  ([commentOf content], (text.drop content.length).drop 1)

/-- The content of a comment and the text after its end, if it has an end. -/
def commentEnd? : List Char → Option (List Char × List Char)
  | [] => none
  | '-' :: '-' :: '>' :: rest | '-' :: '-' :: '!' :: '>' :: rest => some ([], rest)
  | c :: rest => (commentEnd? rest).map fun (content, rest) => (c :: content, rest)

/-- The content of a comment that the text does not complete: what may be the start of its end
does not belong to it. -/
def openContent (text : List Char) : List Char :=
  match text.reverse with
  | '!' :: '-' :: '-' :: content | '-' :: '-' :: content | '-' :: content => content.reverse
  | content => content.reverse

/-- Cuts a comment after its opening. -/
def cutComment (text : List Char) : Cut :=
  match text with
  | '>' :: rest | '-' :: '>' :: rest => ([commentOf []], rest)
  | _ =>
    match commentEnd? text with
    | some (content, rest) => ([commentOf content], rest)
    | none => ([commentOf (openContent text)], [])

/-- The characters of a section of plain characters and the text after its end. -/
def takeSection : List Char → List Char × List Char
  | [] => ([], [])
  | ']' :: ']' :: '>' :: rest => ([], rest)
  | c :: rest =>
    let (content, rest) := takeSection rest
    (c :: content, rest)

/-- Cuts what follows an opening bracket and an exclamation mark. Sections of plain characters
exist only in drawings and formulas. -/
def cutMarked (foreign : Bool) (text : List Char) : Cut :=
  match text with
  | '-' :: '-' :: rest => cutComment rest
  | _ =>
    if (text.take 7).map Char.toLower = "doctype".toList then
      let (doctype, rest) := Doctype.take (text.drop 7)
      ([.doctype doctype.isOld], rest)
    else
      match foreign, after? "[CDATA[".toList text with
      | true, some rest =>
        let (content, rest) := takeSection rest
        (content.map .char, rest)
      | _, _ => cutDeclaration text

/-! ## Modes -/

/-- Cuts the next token of ordinary text. -/
def cutData (foreign : Bool) (text : List Char) : Cut :=
  match text with
  | [] => ([], [])
  | '&' :: rest =>
    match takeReference? false rest with
    | some (chars, rest) => (chars.map .char, rest)
    | none => ([.char '&'], rest)
  | '<' :: '!' :: rest => cutMarked foreign rest
  | '<' :: '?' :: rest => cutDeclaration ('?' :: rest)
  | '<' :: '/' :: c :: rest =>
    if c.isAlpha then cutTag true (c :: rest)
    else if c = '>' then ([], rest)
    else cutDeclaration (c :: rest)
  | '<' :: c :: rest => if c.isAlpha then cutTag false (c :: rest) else ([.char '<'], c :: rest)
  | c :: rest => ([.char c], rest)

/-- A character of text without tags. -/
def rawChar (c : Char) : Token :=
  .char (if c = '\x00' then Char.ofNat 0xFFFD else c)

/-- The rest of a text after a name in any case and what ends it there. -/
def afterName? (name : String) (text : List Char) : Option (List Char) :=
  let written := text.take name.length
  match text.drop name.length with
  | c :: rest =>
    if written.map Char.toLower = name.toList && (isTagSpace c || c == '/' || c == '>') then
      some (c :: rest)
    else none
  | [] => none

/-- Cuts the next token of text that only the end tag of an element ends. -/
def cutRaw (references : Bool) (name : String) (text : List Char) : Cut :=
  match text with
  | [] => ([], [])
  | '<' :: '/' :: rest =>
    if (afterName? name rest).isSome then cutTag true rest else ([.char '<'], '/' :: rest)
  | '&' :: rest =>
    match references, takeReference? false rest with
    | true, some (chars, rest) => (chars.map .char, rest)
    | _, _ => ([.char '&'], rest)
  | c :: rest => ([rawChar c], rest)

/-- The phase after one character within a comment of a script. -/
def phaseAfter (phase : Nat → ScriptPhase) (hyphens : Nat) (c : Char) : ScriptPhase :=
  if c = '-' then phase (min (hyphens + 1) 2)
  else if c = '>' ∧ hyphens = 2 then .plain
  else phase 0

/-- Cuts the next tokens of a script. -/
def cutScript (phase : ScriptPhase) (text : List Char) : Cut × ScriptPhase :=
  let chars (n : Nat) : Cut := ((text.take n).map rawChar, text.drop n)
  match phase, text with
  | _, [] => (([], []), phase)
  | .doubled hyphens, c :: rest =>
    match c, after? ['/'] rest with
    | '<', some rest =>
      if (afterName? "script" rest).isSome then (chars 9, .escaped 0) else (chars 1, .doubled 0)
    | _, _ => (chars 1, phaseAfter .doubled hyphens c)
  | .escaped hyphens, c :: rest =>
    if c = '<' then
      match rest with
      | '/' :: rest =>
        if (afterName? "script" rest).isSome then (cutTag true rest, .plain)
        else (chars 1, .escaped 0)
      | _ =>
        if (afterName? "script" rest).isSome then (chars 8, .doubled 0) else (chars 1, .escaped 0)
    else (chars 1, phaseAfter .escaped hyphens c)
  | .plain, '<' :: '!' :: '-' :: '-' :: _ => (chars 4, .escaped 2)
  | .plain, '<' :: '/' :: rest =>
    if (afterName? "script" rest).isSome then (cutTag true rest, .plain) else (chars 1, .plain)
  | .plain, _ => (chars 1, .plain)

/-- Cuts the next tokens off a text, and tells the mode after them. -/
def cut (foreign : Bool) (mode : TextMode) (text : List Char) : Cut × TextMode :=
  match mode with
  | .data => (cutData foreign text, .data)
  | .escapable name => endRaw (cutRaw true name text)
  | .raw name => endRaw (cutRaw false name text)
  | .script phase =>
    let (result, phase) := cutScript phase text
    match result.1 with
    | [.finish _] => (result, .data)
    | _ => (result, .script phase)
  | .plaintext => ((text.take 1 |>.map rawChar, text.drop 1), .plaintext)
where
  /-- An end tag ends the mode. -/
  endRaw (result : Cut) : Cut × TextMode :=
    match result.1 with
    | [.finish _] => (result, .data)
    | _ => (result, mode)

/-- A text without byte order mark and with plain line ends. -/
def plainLines (text : List Char) : List Char :=
  go (match text with
    | c :: rest => if c.toNat = 0xFEFF then rest else text
    | [] => [])
where
  /-- Replaces the line ends. -/
  go : List Char → List Char
    | [] => []
    | '\r' :: '\n' :: rest | '\r' :: rest => '\n' :: go rest
    | c :: rest => c :: go rest

end Footage.Markup
