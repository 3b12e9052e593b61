import Footage.Text.Hexadecimal
import Footage.Text.Utf8

/-!
# Percent encoding

Characters that may not stand for themselves in a part of a URL are written as the hexadecimal
values of their bytes. Which characters these are depends on the part.
-/

namespace Footage.Url

open Text

/-- Controls, and everything outside ASCII. No part of a URL holds these. -/
def isUnwritable (c : Char) : Bool :=
  c.toNat < 0x20 || 0x7F ≤ c.toNat

/-- The characters that a fragment encodes. -/
def inFragmentSet (c : Char) : Bool :=
  isUnwritable c || c ∈ [' ', '"', '<', '>', '`']

/-- The characters that the query of a URL with an ordinary scheme encodes. -/
def inQuerySet (c : Char) : Bool :=
  isUnwritable c || c ∈ [' ', '"', '#', '<', '>']

/-- The characters that the query of a URL with a special scheme encodes. -/
def inSpecialQuerySet (c : Char) : Bool :=
  inQuerySet c || c == '\''

/-- The characters that a path encodes. -/
def inPathSet (c : Char) : Bool :=
  inFragmentSet c || c ∈ ['#', '?', '{', '}']

/-- The characters that a single segment of a path encodes. -/
def inSegmentSet (c : Char) : Bool :=
  inPathSet c || c == '/' || c == '%'

/-- The characters that a single segment of the path of a special URL encodes. -/
def inSpecialSegmentSet (c : Char) : Bool :=
  inSegmentSet c || c == '\\'

/-- The characters that a user name and a password encode. -/
def inUserinfoSet (c : Char) : Bool :=
  inPathSet c || c ∈ ['/', ':', ';', '=', '@', '[', '\\', ']', '^', '|']

/-- The characters that the keys and values of a form encode. -/
def inFormSet (c : Char) : Bool :=
  !(c.isAlphanum || c ∈ ['*', '-', '.', '_'])

/-- A hexadecimal digit in upper case. -/
def hexDigit (n : Nat) : Char :=
  (Nat.digitChar n).toUpper

/-- A byte as a percent sign and two hexadecimal digits. -/
def percentByte (b : UInt8) : List Char :=
  ['%', hexDigit (b.toNat / 16), hexDigit (b.toNat % 16)]

/-- A text with the characters of a set encoded. -/
def percentEncode (inSet : Char → Bool) (text : List Char) : List Char :=
  text.flatMap fun c =>
    if inSet c then (String.utf8EncodeChar c).flatMap percentByte else [c]

/-- The bytes of a text in which percent signs with two hexadecimal digits stand for bytes. -/
def percentDecode : List Char → List UInt8
  | [] => []
  | '%' :: a :: b :: rest =>
    match hexValue? a, hexValue? b with
    | some high, some low => UInt8.ofNat (high * 16 + low) :: percentDecode rest
    | _, _ => String.utf8EncodeChar '%' ++ percentDecode (a :: b :: rest)
  | c :: rest => String.utf8EncodeChar c ++ percentDecode rest

end Footage.Url
