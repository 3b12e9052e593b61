import Footage.Markup.Selector.Basic
import Footage.Text.Decimal
import Footage.Text.Hexadecimal

/-!
# Reading selectors

The syntax of selectors. Brackets and parentheses that are open at the end are closed there.
-/

namespace Footage.Markup.Selector

open Text

/-- Reads a piece of a selector, or finds that the text is no selector. -/
abbrev Reader := StateT (List Char) Option

namespace Reader

/-- The next character. -/
def peek : Reader (Option Char) := do
  return (← get).head?

/-- Goes past the next characters. -/
def advance (n : Nat) : Reader Unit :=
  modify (·.drop n)

/-- Goes past white space, and tells whether there was any. -/
def skip : Reader Bool := do
  let text ← get
  set (text.dropWhile isTagSpace)
  return text.head?.any isTagSpace

/-- Goes past a given character, if it comes next. -/
def accept (c : Char) : Reader Bool := do
  if (← peek) = some c then
    advance 1
    return true
  else return false

/-- Goes past the bracket that closes a group, or finds the end of the text. -/
def close (c : Char) : Reader Unit := do
  match ← peek with
  | none => return
  | some d => if c = d then advance 1 else failure

/-! ## Names and strings -/

/-- Whether a character may start a name. -/
def startsName (c : Char) : Bool :=
  c.isAlpha || c == '_' || 128 ≤ c.toNat

/-- Whether a character may stand in a name. -/
def isNameChar (c : Char) : Bool :=
  startsName c || c.isDigit || c == '-'

/-- Takes the character that an escape stands for, after its backslash. -/
def takeEscape (text : List Char) : Char × List Char :=
  let digits := (text.take 6).takeWhile isHexDigit
  let rest := text.drop digits.length
  match digits, text with
  | [], c :: rest => (c, rest)
  | [], [] => (Char.ofNat 0xFFFD, [])
  | _, _ =>
    let n := hexNumber digits
    (if n = 0 ∨ ¬n.isValidChar then Char.ofNat 0xFFFD else Char.ofNat n,
      if rest.head?.any isTagSpace then rest.drop 1 else rest)

/-- Takes the characters of a name. The first argument bounds their number. -/
def takeName : Nat → List Char → List Char × List Char
  | 0, text => ([], text)
  | fuel + 1, text =>
    match text with
    | '\\' :: '\n' :: _ | [] => ([], text)
    | '\\' :: rest =>
      let (c, rest) := takeEscape rest
      let (name, rest) := takeName fuel rest
      (c :: name, rest)
    | c :: rest =>
      if isNameChar c then
        let (name, rest) := takeName fuel rest
        (c :: name, rest)
      else ([], text)

/-- Whether a name stands at the start of a text. -/
def nameStarts (text : List Char) : Bool :=
  match text with
  | '-' :: '-' :: _ => true
  | '-' :: '\\' :: c :: _ | '\\' :: c :: _ => c ≠ '\n'
  | '-' :: c :: _ | c :: _ => startsName c
  | [] => false

/-- Reads a name, if one comes next. -/
def name? : Reader (Option String) := do
  let text ← get
  if nameStarts text then
    let (name, rest) := takeName text.length text
    set rest
    return some (String.ofList name)
  else return none

/-- Reads a name. -/
def name : Reader String := do
  match ← name? with
  | some name => return name
  | none => failure

/-- Takes the characters of a string up to its quote or the end of the text. The first argument
bounds their number. -/
def takeString? (quote : Char) : Nat → List Char → Option (List Char × List Char)
  | 0, _ | _, [] => some ([], [])
  | fuel + 1, c :: rest =>
    if c = quote then some ([], rest)
    else if c = '\n' then none
    else if c = '\\' then
      match rest with
      | [] => some ([], [])
      | '\n' :: rest => takeString? quote fuel rest
      | _ =>
        let (c, rest) := takeEscape rest
        (takeString? quote fuel rest).map fun (text, rest) => (c :: text, rest)
    else (takeString? quote fuel rest).map fun (text, rest) => (c :: text, rest)

/-- Reads a name or a string in quotes. -/
def word : Reader String := do
  match ← get with
  | c :: rest =>
    if c = '"' ∨ c = '\'' then
      match takeString? c (rest.length + 1) rest with
      | some (text, rest) =>
        set rest
        return String.ofList text
      | none => failure
    else name
  | [] => failure

/-! ## Conditions -/

/-- The comparison that comes next. -/
def comparison : Reader Comparison := do
  match ← get with
  | '=' :: _ =>
    advance 1
    return .equal
  | c :: '=' :: _ =>
    advance 2
    match c with
    | '~' => return .word
    | '|' => return .dash
    | '^' => return .start
    | '$' => return .finish
    | '*' => return .inside
    | _ => failure
  | _ => failure

/-- Reads a condition on an attribute, after its bracket. -/
def attributeTest : Reader Simple := do
  discard skip
  if ← accept '*' then
    if !(← accept '|') then failure
  else if (← get).head? = some '|' then advance 1
  let key ← name
  discard skip
  match ← peek with
  | none => return .present key
  | some ']' =>
    advance 1
    return .present key
  | _ =>
    let comparison ← comparison
    discard skip
    let text ← word
    discard skip
    let flag ← name?
    discard skip
    close ']'
    match flag.map String.toLower with
    | none | some "s" => return .value key comparison text false
    | some "i" => return .value key comparison text true
    | some _ => failure

/-- The number that a text with an optional sign denotes. -/
def signed? (text : List Char) : Option Int :=
  readSigned? (-2147483648) 2147483647 text

/-- Reads the step and the offset of a position: `odd`, `even`, an offset, or a step with an
optional offset. -/
def stepAndOffset? (text : List Char) : Option (Int × Int) :=
  let text := text.map Char.toLower
  let trimmed := ((text.dropWhile isTagSpace).reverse.dropWhile isTagSpace).reverse
  if trimmed = "odd".toList then some (2, 1)
  else if trimmed = "even".toList then some (2, 0)
  else
    let front := trimmed.takeWhile (· ≠ 'n')
    match trimmed.drop front.length with
    | [] => (signed? trimmed).map fun offset => (0, offset)
    | _ :: back =>
      let step : Option Int :=
        if front = [] ∨ front = ['+'] then some 1
        else if front = ['-'] then some (-1)
        else signed? front
      let back := back.dropWhile isTagSpace
      let offset : Option Int :=
        match back with
        | [] => some 0
        | sign :: rest =>
          if sign = '+' ∨ sign = '-' then
            let digits := rest.dropWhile isTagSpace
            if digits.all Char.isDigit then signed? (sign :: digits) else none
          else none
      do return (← step, ← offset)

/-- Reads the argument of a condition on the position. -/
def position (fromEnd sameName : Bool) : Reader Simple := do
  let text ← get
  let argument := text.takeWhile (· ≠ ')')
  set (text.drop (argument.length + 1))
  match stepAndOffset? argument with
  | some (step, offset) => return .nth fromEnd sameName step offset
  | none => failure

/-- The conditions on the place of an element that have names. -/
def placeTest? (name : String) : Option (List Simple) :=
  match name.toLower with
  | "root" => some [.root]
  | "empty" => some [.empty]
  | "scope" => some [.scope]
  | "first-child" => some [.nth false false 0 1]
  | "last-child" => some [.nth true false 0 1]
  | "only-child" => some [.nth false false 0 1, .nth true false 0 1]
  | "first-of-type" => some [.nth false true 0 1]
  | "last-of-type" => some [.nth true true 0 1]
  | "only-of-type" => some [.nth false true 0 1, .nth true true 0 1]
  | _ => none

/-- The combinator that comes next, if one is written. -/
def combinator? : Reader (Option Combinator) := do
  if ← accept '>' then return some .child
  else if ← accept '+' then return some .next
  else if ← accept '~' then return some .later
  else return none

/-- Reads the name of an element, if one comes next. A bar may stand before it. -/
def elementName? : Reader (Option Simple) := do
  let named (wrap : Simple → Simple) : Reader (Option Simple) := do
    if ← accept '*' then return some (wrap .any)
    else return (← name?).map fun name => wrap (.name name)
  let isBar (text : List Char) : Bool := text.head? = some '|' && text[1]? != some '='
  if isBar (← get) then
    advance 1
    match ← named fun _ => .none with
    | some test => return some test
    | none => failure
  else if ← accept '*' then
    if isBar (← get) then
      advance 1
      match ← named id with
      | some test => return some test
      | none => failure
    else return some .any
  else
    match ← name? with
    | none => return none
    | some name => if isBar (← get) then failure else return some (.name name)

/-- Goes to the next comma or to the end of the group, past inner groups. The first argument is
the depth. -/
def dropItem : Nat → List Char → List Char
  | _, [] => []
  | depth, c :: rest =>
    if c = '(' ∨ c = '[' then dropItem (depth + 1) rest
    else if depth = 0 ∧ (c = ',' ∨ c = ')') then c :: rest
    else if c = ')' ∨ c = ']' then dropItem (depth - 1) rest
    else dropItem depth rest

mutual

/-- Reads conditions with commas between them. In a group they end at its parenthesis. Where
`forgiving` is set, what is no condition is left out. A condition on elements around another one
may start with a combinator. -/
def conditions (inGroup forgiving relative : Bool) : Nat → Reader Selector
  | 0 => failure
  | fuel + 1 => do
    let before ← get
    let first : Option Complex ←
      match (complex inGroup relative fuel).run before with
      | some (condition, rest) =>
        set rest
        pure (some condition)
      | none =>
        if forgiving then
          set (dropItem 0 before)
          pure none
        else failure
    if ← accept ',' then return first.toList ++ (← conditions inGroup forgiving relative fuel)
    else if inGroup then
      close ')'
      return first.toList
    else if (← get).isEmpty then return first.toList
    else failure

/-- Reads a condition on an element and on elements around it. -/
def complex (inGroup relative : Bool) : Nat → Reader Complex
  | 0 => failure
  | fuel + 1 => do
    discard skip
    if relative then
      let lead ← combinator?
      let rest ← compounds inGroup [(lead.getD .descendant, [.scope])] fuel
      return rest
    else compounds inGroup [] fuel

/-- Reads groups of conditions with combinators between them. Those to the left are given. -/
def compounds (inGroup : Bool) (left : Complex) : Nat → Reader Complex
  | 0 => failure
  | fuel + 1 => do
    discard skip
    let here ← compound fuel
    let blank ← skip
    let next ← peek
    if next = none ∨ next = some ',' ∨ (inGroup ∧ next = some ')') then
      return (.descendant, here) :: left
    else
      match ← combinator? with
      | some combinator => compounds inGroup ((combinator, here) :: left) fuel
      | none =>
        if blank then compounds inGroup ((.descendant, here) :: left) fuel else failure

/-- Reads the conditions on one element. -/
def compound : Nat → Reader (List Simple)
  | 0 => failure
  | fuel + 1 => do
    let element ← elementName?
    let rest ← simples fuel
    let all := element.toList ++ rest
    if all.isEmpty then failure else return all

/-- Reads further conditions on an element. -/
def simples : Nat → Reader (List Simple)
  | 0 => failure
  | fuel + 1 => do
    let more (test : List Simple) : Reader (List Simple) := return test ++ (← simples fuel)
    match ← peek with
    | some '#' =>
      advance 1
      more [.id (← name)]
    | some '.' =>
      advance 1
      more [.className (← name)]
    | some '[' =>
      advance 1
      more [← attributeTest]
    | some ':' =>
      advance 1
      let name ← name
      if ← accept '(' then
        discard skip
        match name.toLower with
        | "not" => more [.not (← conditions true false false fuel)]
        | "is" | "where" => more [.oneOf (← conditions true true false fuel)]
        | "has" => more [.has (← conditions true false true fuel)]
        | "nth-child" => more [← position false false]
        | "nth-last-child" => more [← position true false]
        | "nth-of-type" => more [← position false true]
        | "nth-last-of-type" => more [← position true true]
        | _ => failure
      else
        match placeTest? name with
        | some tests => more tests
        | none => failure
    | _ => return []

end

end Reader

/-- Reads a selector. -/
def read? (text : String) : Option Selector := do
  let text := text.toList
  let (selector, _) ← (Reader.conditions false false false (4 * text.length + 4)).run text
  return selector

end Footage.Markup.Selector
