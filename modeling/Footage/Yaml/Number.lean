import Footage.Text.Hexadecimal

/-!
# Numbers in YAML

A plain scalar may stand for a number: an integer in one of four bases, or a decimal fraction. A
decimal number with zeros before its first digit is a text.
-/

namespace Footage.Yaml

open Text

/-- The number that digits of a base denote. -/
def digitsIn? (base : Nat) (digits : List Char) : Option Nat :=
  let value? (c : Char) : Option Nat := (hexValue? c).filter (· < base)
  if digits.isEmpty then none
  else (digits.mapM value?).map fun values => values.foldl (fun n value => n * base + value) 0

/-- A text without a sign at its start. -/
def unsigned (text : List Char) : List Char :=
  match text with
  | '+' :: rest | '-' :: rest => rest
  | _ => text

/-- Whether a text consists of digits of which the first of several is zero. -/
def isZeroPadded (text : List Char) : Bool :=
  match unsigned text with
  | '0' :: rest => !rest.isEmpty && rest.all Char.isDigit
  | _ => false

/-- The number that a text without a sign denotes. -/
def magnitude? : List Char → Option Nat
  | '0' :: 'x' :: digits => digitsIn? 16 digits
  | '0' :: 'o' :: digits => digitsIn? 8 digits
  | '0' :: 'b' :: digits => digitsIn? 2 digits
  | digits => if isZeroPadded digits then none else digitsIn? 10 digits

/-- The natural number below a limit that a text denotes. -/
def natural? (limit : Nat) (text : List Char) : Option Nat :=
  (magnitude? (match text with
    | '+' :: rest => rest
    | _ => text)).filter (· < limit)

/-- Whether a text denotes an integer that is not too large: below `2 ^ 128`, or from `-2 ^ 127` on
below zero. -/
def isInteger (text : List Char) : Bool :=
  match text with
  | '-' :: rest => (magnitude? rest).any (· ≤ 1 <<< 127)
  | _ => (natural? (1 <<< 128) text).isSome

/-- The digits of a decimal fraction before and after its point, and its exponent. -/
def fraction? (text : List Char) : Option (List Char × List Char × Int) := do
  let whole := text.takeWhile Char.isDigit
  let rest := text.drop whole.length
  let (part, rest) := match rest with
    | '.' :: rest => (rest.takeWhile Char.isDigit, rest.dropWhile Char.isDigit)
    | _ => ([], rest)
  if whole.isEmpty ∧ part.isEmpty then none
  else
    match rest with
    | [] => some (whole, part, 0)
    | e :: exponent =>
      if e = 'e' ∨ e = 'E' then do
        let n ← digitsIn? 10 (unsigned exponent)
        return (whole, part, if exponent.head? = some '-' then -n else n)
      else none

/-- Whether the number with some digits after a point and the point moved to the right is finite
when it is rounded to 53 binary digits. -/
def isFinite (digits : List Char) (point : Int) : Bool :=
  let digits := digits.dropWhile (· == '0')
  let bound := (1 <<< 1024) - (1 <<< 970)
  let n := (digitsIn? 10 digits).getD 0
  n == 0 || point < 309 ||
    point == 309 && n * Nat.pow 10 (309 - digits.length) < bound * Nat.pow 10 (digits.length - 309)

/-- Whether a text denotes a decimal fraction that is not too large, or one of the special values
of floating-point arithmetic. -/
def isFraction (text : List Char) : Bool :=
  let special := [".inf", ".Inf", ".INF", ".nan", ".NaN", ".NAN", "+.inf", "+.Inf", "+.INF",
    "-.inf", "-.Inf", "-.INF"]
  String.ofList text ∈ special ||
    (fraction? (unsigned text)).any fun (whole, part, exponent) =>
      let zeros := ((whole ++ part).takeWhile (· == '0')).length
      isFinite (whole ++ part) (whole.length - zeros + exponent)

/-- Whether a plain scalar stands for nothing. -/
def isNull (text : List Char) : Bool :=
  String.ofList text ∈ ["null", "Null", "NULL", "~"]

/-- Whether a plain scalar stands for a truth value. -/
def isTruth (text : List Char) : Bool :=
  String.ofList text ∈ ["true", "True", "TRUE", "false", "False", "FALSE"]

/-- Whether a plain scalar stood for a truth value in earlier versions of the format. -/
def wasTruth (text : List Char) : Bool :=
  String.ofList text ∈ ["y", "Y", "yes", "Yes", "YES", "n", "N", "no", "No", "NO", "on", "On", "ON",
    "off", "Off", "OFF"]

/-- Whether a text, written plainly, could be taken for something other than a text. -/
def isAmbiguous (text : List Char) : Bool :=
  text.isEmpty || isNull text || isTruth text || wasTruth text || isInteger text ||
    isZeroPadded text || isFraction text

end Footage.Yaml
