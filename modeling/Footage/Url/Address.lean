import Footage.Text.Decimal
import Footage.Url.Percent

/-!
# Network addresses as hosts

Addresses of version 4, whose numbers may be decimal, octal or hexadecimal and may be merged, and
addresses of version 6, which are written with the longest run of zeros left out.
-/

namespace Footage.Url

open Text

/-- The number that digits of a base denote, if all of them are digits of the base. -/
def readBase? (base : Nat) (digits : List Char) : Option Nat :=
  digits.foldlM (fun n c => do
    let d ← hexValue? c
    if d < base then some (n * base + d) else none) 0

/-- Reads one number of an address: hexadecimal after `0x`, octal after `0`, else decimal. -/
def readAddressNumber? (text : List Char) : Option Nat :=
  match text with
  | [] => none
  | '0' :: 'x' :: digits | '0' :: 'X' :: digits => readBase? 16 digits
  | ['0'] => some 0
  | '0' :: digits => readBase? 8 digits
  | digits => readBase? 10 digits

/-- Whether the last part of a domain is a number, so that the domain must be an address. -/
def endsInNumber (domain : List Char) : Bool :=
  let last := match (domain.splitOn '.').reverse with
    | [] :: last :: _ => last
    | last :: _ => last
    | [] => []
  (!last.isEmpty && last.all Char.isDigit) || (readAddressNumber? last).isSome

/-- An address of version 4 with points between its four bytes. -/
def writeIpv4 (address : Nat) : List Char :=
  ['.'].intercalate
    ([address / 16777216, address / 65536 % 256, address / 256 % 256, address % 256].map decimal)

/-- Reads an address of version 4. The last of its numbers fills all the bytes that the numbers
before it leave. -/
def readIpv4? (domain : List Char) : Option Nat := do
  let parts := domain.splitOn '.'
  let parts := if parts.getLast? = some [] then parts.dropLast else parts
  if parts.length > 4 then none
  else
    let numbers ← parts.mapM readAddressNumber?
    let last ← numbers.getLast?
    let firsts := numbers.dropLast
    if last ≥ Nat.pow 256 (4 - firsts.length) ∨ firsts.any (· > 255) then none
    else some (last + (firsts.zipIdx.map fun (n, i) => n * Nat.pow 256 (3 - i)).foldr (· + ·) 0)

/-- Reads a group of one to four hexadecimal digits. -/
def readGroup? (text : List Char) : Option Nat :=
  if 1 ≤ text.length ∧ text.length ≤ 4 then readBase? 16 text else none

/-- Reads a byte in decimal, without leading zeros. -/
def readByte? (text : List Char) : Option Nat := do
  let n ← readDigits? text
  if n < 256 ∧ (text.length = 1 ∨ text.head? ≠ some '0') then some n else none

/-- Reads four bytes with points between them as two groups. -/
def readBytes? (text : List Char) : Option (List Nat) := do
  match ← (text.splitOn '.').mapM readByte? with
  | [a, b, c, d] => some [a * 256 + b, c * 256 + d]
  | _ => none

/-- Reads groups with colons between them; the last group may be four bytes. -/
def readGroups? (last : Bool) (text : List Char) : Option (List Nat) :=
  if text.isEmpty then some []
  else
    let parts := text.splitOn ':'
    match parts.getLast? with
    | some part =>
      if last ∧ '.' ∈ part then do
        let groups ← parts.dropLast.mapM readGroup?
        let bytes ← readBytes? part
        return groups ++ bytes
      else parts.mapM readGroup?
    | none => none

/-- Splits a text at its first double colon. -/
def splitDoubleColon? : List Char → Option (List Char × List Char)
  | ':' :: ':' :: rest => some ([], rest)
  | c :: rest => (splitDoubleColon? rest).map fun (front, back) => (c :: front, back)
  | [] => none

/-- Reads an address of version 6 as its eight groups. -/
def readIpv6? (text : List Char) : Option (List Nat) :=
  match splitDoubleColon? text with
  | none => do
    let groups ← readGroups? true text
    if groups.length = 8 then some groups else none
  | some (front, back) => do
    let front ← readGroups? false front
    let back ← readGroups? true back
    if front.length + back.length ≤ 7 then
      some (front ++ List.replicate (8 - front.length - back.length) 0 ++ back)
    else none

/-- The length of the run of zeros at the start of the groups. -/
def zeroRun (groups : List Nat) : Nat :=
  (groups.takeWhile (· = 0)).length

/-- The place of the first longest run of zeros, and its length. -/
def longestZeroRun (groups : List Nat) : Nat × Nat :=
  (List.range groups.length).foldl
    (fun best i =>
      let run := zeroRun (groups.drop i)
      if run > best.2 then (i, run) else best)
    (0, 0)

/-- Groups in hexadecimal with colons between them. -/
def writeGroups (groups : List Nat) : List Char :=
  [':'].intercalate (groups.map (Nat.toDigits 16))

/-- An address of version 6 in brackets. The longest run of at least two zeros is left out. -/
def writeIpv6 (groups : List Nat) : List Char :=
  let (place, run) := longestZeroRun groups
  let text :=
    if run < 2 then writeGroups groups
    else writeGroups (groups.take place) ++ ':' :: ':' :: writeGroups (groups.drop (place + run))
  '[' :: (text ++ [']'])

end Footage.Url
