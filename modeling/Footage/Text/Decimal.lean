/-!
# Decimal numbers

Natural numbers as ASCII digits, and the readers built on them: unsigned numbers below a limit
with an optional plus sign, signed numbers in a range, and the number at the start of a text.
-/

namespace Footage.Text

/-- The number that a run of decimal digits denotes. -/
def digitsValue (digits : List Char) : Nat :=
  Nat.ofDigitChars 10 digits 0

/-- The decimal digits of a number, without leading zeros. -/
def decimal (n : Nat) : List Char :=
  Nat.toDigits 10 n

/-- Reads a non-empty run of ASCII digits. -/
def readDigits? (text : List Char) : Option Nat :=
  if !text.isEmpty && text.all Char.isDigit then some (digitsValue text) else none

/-- Reads digits after an optional plus sign; the number must lie below the limit. -/
def readUnsigned? (limit : Nat) (text : List Char) : Option Nat := do
  let digits := match text with
    | '+' :: rest => rest
    | _ => text
  let n ← readDigits? digits
  if n < limit then some n else none

/-- Reads digits after an optional sign; the number must lie between the bounds. -/
def readSigned? (low high : Int) (text : List Char) : Option Int := do
  let n ← match text with
    | '+' :: rest => (readDigits? rest).map Int.ofNat
    | '-' :: rest => (readDigits? rest).map fun n => -Int.ofNat n
    | _ => (readDigits? text).map Int.ofNat
  if low ≤ n ∧ n ≤ high then some n else none

/-- The decimal text of a number with zeros on the left up to a width. -/
def padded (width n : Nat) : List Char :=
  (decimal n).leftpad width '0'

end Footage.Text
