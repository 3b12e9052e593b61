import Footage.Json.Basic
import Footage.Text.Decimal

/-!
# Writing JSON

The compact text of a value: no blanks, members in their order, and of all characters only
quotes, backslashes and controls escaped. What cannot be read is written as null.
-/

namespace Footage.Json

open Text

/-- A hexadecimal digit. -/
def hexDigit (n : Nat) : Char :=
  Nat.digitChar n

/-- A character as it stands in a string. -/
def writeChar (c : Char) : List Char :=
  if c = '"' then ['\\', '"']
  else if c = '\\' then ['\\', '\\']
  else if c = '\x08' then ['\\', 'b']
  else if c = '\x0c' then ['\\', 'f']
  else if c = '\n' then ['\\', 'n']
  else if c = '\r' then ['\\', 'r']
  else if c = '\t' then ['\\', 't']
  else if c.toNat < 32 then
    ['\\', 'u', '0', '0', hexDigit (c.toNat / 16), hexDigit (c.toNat % 16)]
  else [c]

/-- A string with its quotes. -/
def writeString (text : String) : List Char :=
  '"' :: (text.toList.flatMap writeChar ++ ['"'])

/-- An integer. -/
def writeInteger (n : Int) : List Char :=
  if n < 0 then '-' :: decimal n.natAbs else decimal n.natAbs

mutual

/-- The text of a value. -/
def write : Json → List Char
  | null | unreadable => "null".toList
  | bool true => "true".toList
  | bool false => "false".toList
  | integer n => writeInteger n
  | real text => text.toList
  | string text => writeString text
  | array [] => ['[', ']']
  | array (value :: elements) => '[' :: (write value ++ writeElements elements)
  | object [] => ['{', '}']
  | object ((key, value) :: members) =>
    '{' :: (writeString key ++ ':' :: (write value ++ writeMembers members))

/-- The text of the further elements of an array, to its end. -/
def writeElements : List Json → List Char
  | [] => [']']
  | value :: elements => ',' :: (write value ++ writeElements elements)

/-- The text of the further members of an object, to its end. -/
def writeMembers : List (String × Json) → List Char
  | [] => ['}']
  | (key, value) :: members =>
    ',' :: (writeString key ++ ':' :: (write value ++ writeMembers members))

end

end Footage.Json
