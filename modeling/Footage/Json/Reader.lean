import Footage.Json.Basic
import Footage.Text.Decimal
import Footage.Text.Hexadecimal

/-!
# Reading JSON

A strict reader: nothing but blanks may stand around the value, numbers have no leading zeros, and
strings hold no raw control characters. A string in which an escaped surrogate lacks its other half
has no text. It is passed over, so that a document may hold it where nothing reads it.
-/

namespace Footage.Json

open Text

/-- The blanks of JSON. -/
def isSpace (c : Char) : Bool :=
  c == ' ' || c == '\n' || c == '\t' || c == '\r'

/-- The text without the blanks at its start. -/
def skipSpace (text : List Char) : List Char :=
  text.dropWhile isSpace

/-- Takes four hexadecimal digits. -/
def takeUnit? : List Char → Option (Nat × List Char)
  | a :: b :: c :: d :: rest => do
    let a ← hexValue? a
    let b ← hexValue? b
    let c ← hexValue? c
    let d ← hexValue? d
    return (((a * 16 + b) * 16 + c) * 16 + d, rest)
  | _ => none

/-- Takes the digits of an escaped character: one unit, or two that form a surrogate pair. -/
def takeEscapedUnit? (text : List Char) : Option (Char × List Char) := do
  let (high, rest) ← takeUnit? text
  if 0xD800 ≤ high ∧ high < 0xDC00 then
    match rest with
    | '\\' :: 'u' :: rest =>
      let (low, rest) ← takeUnit? rest
      if 0xDC00 ≤ low ∧ low < 0xE000 then
        some (Char.ofNat (0x10000 + (high - 0xD800) * 0x400 + (low - 0xDC00)), rest)
      else none
    | _ => none
  else if 0xDC00 ≤ high ∧ high < 0xE000 then none
  else some (Char.ofNat high, rest)

/-- The character that a one-letter escape stands for. -/
def escaped? : Char → Option Char
  | '"' => some '"'
  | '\\' => some '\\'
  | '/' => some '/'
  | 'b' => some '\x08'
  | 'f' => some '\x0c'
  | 'n' => some '\n'
  | 'r' => some '\r'
  | 't' => some '\t'
  | _ => none

/-- Takes the characters of a string up to its closing quote, if it has a text. The first argument
bounds the number of characters. -/
def takeString? : Nat → List Char → Option (List Char × List Char)
  | 0, _ => none
  | _ + 1, [] => none
  | _ + 1, '"' :: rest => some ([], rest)
  | fuel + 1, '\\' :: 'u' :: rest => do
    let (c, rest) ← takeEscapedUnit? rest
    let (text, rest) ← takeString? fuel rest
    return (c :: text, rest)
  | fuel + 1, '\\' :: letter :: rest => do
    let c ← escaped? letter
    let (text, rest) ← takeString? fuel rest
    return (c :: text, rest)
  | fuel + 1, c :: rest =>
    if c = '\\' ∨ c.toNat < 32 then none
    else do
      let (text, rest) ← takeString? fuel rest
      return (c :: text, rest)

/-- Passes over a string up to its closing quote. Escapes need not stand for characters. -/
def passString? : Nat → List Char → Option (List Char)
  | 0, _ => none
  | _ + 1, [] => none
  | _ + 1, '"' :: rest => some rest
  | fuel + 1, '\\' :: 'u' :: rest => do
    let (_, rest) ← takeUnit? rest
    passString? fuel rest
  | fuel + 1, '\\' :: letter :: rest => do
    let _ ← escaped? letter
    passString? fuel rest
  | fuel + 1, c :: rest => if c = '\\' ∨ c.toNat < 32 then none else passString? fuel rest

/-- Takes a string after its opening quote, with its text if it has one. -/
def takeText? (text : List Char) : Option (Option String × List Char) :=
  match takeString? (text.length + 1) text with
  | some (chars, rest) => some (some (String.ofList chars), rest)
  | none => (passString? (text.length + 1) text).map fun rest => (none, rest)

/-- The string with a text, if it has one. -/
def ofText : Option String → Json
  | some text => .string text
  | none => .unreadable

/-- The object with some members, if all their keys have a text. -/
def ofMembers (members : List (Option String × Json)) : Json :=
  match members.mapM fun member => member.1.map fun key => (key, member.2) with
  | some members => .object members
  | none => .unreadable

/-- Takes an optional point with digits after it. -/
def takeFraction? (text : List Char) : Option (List Char × List Char) :=
  match text with
  | '.' :: rest =>
    let digits := rest.takeWhile Char.isDigit
    if digits.isEmpty then none else some ('.' :: digits, rest.drop digits.length)
  | _ => some ([], text)

/-- Takes an optional exponent. -/
def takeExponent? (text : List Char) : Option (List Char × List Char) :=
  match text with
  | e :: rest =>
    if e = 'e' ∨ e = 'E' then
      let sign := match rest with
        | '+' :: _ => ['+']
        | '-' :: _ => ['-']
        | _ => []
      let rest := rest.drop sign.length
      let digits := rest.takeWhile Char.isDigit
      if digits.isEmpty then none
      else some (e :: (sign ++ digits), rest.drop digits.length)
    else some ([], text)
  | [] => some ([], text)

/-- The number with a sign, digits, a fraction and an exponent. -/
def ofNumeral (negative : Bool) (digits extra : List Char) : Json :=
  let n := digitsValue digits
  if extra.isEmpty ∧ ¬negative ∧ n < UInt64.size then .integer n
  else if extra.isEmpty ∧ negative ∧ 0 < n ∧ 2 * n ≤ UInt64.size then .integer (-n)
  else .real (String.ofList ((if negative then ['-'] else []) ++ digits ++ extra))

/-- Takes a number. -/
def takeNumber? (text : List Char) : Option (Json × List Char) := do
  let (negative, rest) := match text with
    | '-' :: rest => (true, rest)
    | _ => (false, text)
  let digits := rest.takeWhile Char.isDigit
  if digits.isEmpty ∨ (digits.length > 1 ∧ digits.head? = some '0') then none
  else
    let (fraction, rest) ← takeFraction? (rest.drop digits.length)
    let (exponent, rest) ← takeExponent? rest
    return (ofNumeral negative digits (fraction ++ exponent), rest)

/-- Takes a fixed word. -/
def takeWord? : List Char → List Char → Option (List Char)
  | [], text => some text
  | _ :: _, [] => none
  | c :: word, d :: text => if c = d then takeWord? word text else none

mutual

/-- Takes a value. The first argument bounds the depth of the recursion. -/
def takeValue? : Nat → List Char → Option (Json × List Char)
  | 0, _ => none
  | fuel + 1, text =>
    match skipSpace text with
    | [] => none
    | '"' :: rest => (takeText? rest).map fun (text, rest) => (ofText text, rest)
    | '[' :: rest =>
      match skipSpace rest with
      | ']' :: rest => some (.array [], rest)
      | rest => (takeElements? fuel rest).map fun (elements, rest) => (.array elements, rest)
    | '{' :: rest =>
      match skipSpace rest with
      | '}' :: rest => some (.object [], rest)
      | rest => (takeMembers? fuel rest).map fun (members, rest) => (ofMembers members, rest)
    | 'n' :: rest => (takeWord? "ull".toList rest).map fun rest => (.null, rest)
    | 't' :: rest => (takeWord? "rue".toList rest).map fun rest => (.bool true, rest)
    | 'f' :: rest => (takeWord? "alse".toList rest).map fun rest => (.bool false, rest)
    | text => takeNumber? text

/-- Takes the elements of an array and the bracket after them. -/
def takeElements? : Nat → List Char → Option (List Json × List Char)
  | 0, _ => none
  | fuel + 1, text => do
    let (value, rest) ← takeValue? fuel text
    match skipSpace rest with
    | ',' :: rest =>
      let (elements, rest) ← takeElements? fuel rest
      return (value :: elements, rest)
    | ']' :: rest => return ([value], rest)
    | _ => none

/-- Takes the members of an object and the brace after them. -/
def takeMembers? : Nat → List Char → Option (List (Option String × Json) × List Char)
  | 0, _ => none
  | fuel + 1, text =>
    match skipSpace text with
    | '"' :: rest => do
      let (key, rest) ← takeText? rest
      match skipSpace rest with
      | ':' :: rest =>
        let (value, rest) ← takeValue? fuel rest
        match skipSpace rest with
        | ',' :: rest =>
          let (members, rest) ← takeMembers? fuel rest
          return ((key, value) :: members, rest)
        | '}' :: rest => return ([(key, value)], rest)
        | _ => none
      | _ => none
    | _ => none

end

/-- Reads a document that holds one value. -/
def read? (text : List Char) : Option Json := do
  let (value, rest) ← takeValue? (2 * text.length + 2) text
  if (skipSpace rest).isEmpty then some value else none

end Footage.Json
