import Footage.Calendar.Moment
import Footage.Text.Blank

/-!
# Reading dates and times by layout

A layout is a list of pieces: numbers of one or two digits, a year, fixed characters, blanks. A
number may have blanks before it. A year without a sign has at most four digits; with a sign it
may have more. A text is read when the pieces consume all of it.
-/

namespace Footage.Calendar

open Footage.Text

/-- One piece of a written date or time. -/
inductive Piece where
  | year
  | month
  | day
  | hour
  | minute
  | second
  /-- An optional point and digits. -/
  | fraction
  /-- Any number of blanks. -/
  | blanks
  | fixed (c : Char)
  deriving DecidableEq, Repr

/-- A written form of a date or time. -/
abbrev Layout := List Piece

/-- The numbers read so far. -/
structure Parts where
  year : Int := 0
  month : Nat := 1
  day : Nat := 1
  hour : Nat := 0
  minute : Nat := 0
  second : Nat := 0
  nanosecond : Nat := 0
  deriving DecidableEq, Repr

namespace Parts

/-- The day that the numbers name. -/
def day? (parts : Parts) : Option Day :=
  Day.ofParts? parts.year parts.month parts.day

/-- The moment that the numbers name. -/
def moment? (parts : Parts) : Option Moment := do
  let day ← parts.day?
  let clock ← Clock.ofParts? parts.hour parts.minute parts.second parts.nanosecond
  return ⟨day, clock⟩

end Parts

/-- Takes at least one and at most `width` digits off the front of a text. -/
def takeNumber? (width : Nat) (text : List Char) : Option (Nat × List Char) :=
  let digits := (text.take width).takeWhile Char.isDigit
  if digits.isEmpty then none else some (digitsValue digits, text.drop digits.length)

/-- Takes all the digits off the front of a text, at least one. -/
def takeDigits? (text : List Char) : Option (Nat × List Char) :=
  takeNumber? text.length text

/-- Takes exactly `width` digits off the front of a text. -/
def takeExactly? (width : Nat) (text : List Char) : Option (Nat × List Char) :=
  let digits := text.take width
  if digits.length = width ∧ digits.all Char.isDigit then
    some (digitsValue digits, text.drop width)
  else none

/-- Takes a year: up to four digits, or a sign and any number of digits. -/
def takeYear? (text : List Char) : Option (Int × List Char) :=
  match text with
  | '-' :: rest => (takeDigits? rest).map fun (n, rest) => (-Int.ofNat n, rest)
  | '+' :: rest => (takeDigits? rest).map fun (n, rest) => (Int.ofNat n, rest)
  | _ => (takeNumber? 4 text).map fun (n, rest) => (Int.ofNat n, rest)

/-- Takes the digits after a point as nanoseconds. Digits after the ninth are dropped. -/
def takeNanoseconds? (text : List Char) : Option (Nat × List Char) :=
  let digits := (text.take 9).takeWhile Char.isDigit
  if digits.isEmpty then none
  else some (digitsValue digits * Nat.pow 10 (9 - digits.length), text.dropWhile Char.isDigit)

/-- Takes an optional point and digits. -/
def takeFraction? (text : List Char) : Option (Nat × List Char) :=
  match text with
  | '.' :: rest => takeNanoseconds? rest
  | _ => some (0, text)

/-- Takes a fixed character. -/
def takeFixed? (c : Char) : List Char → Option (List Char)
  | d :: rest => if c = d then some rest else none
  | [] => none

namespace Piece

/-- Takes one piece off the front of a text. -/
def take? (piece : Piece) (parts : Parts) (text : List Char) : Option (Parts × List Char) :=
  match piece with
  | year => (takeYear? (trimStart text)).map fun (n, rest) => ({ parts with year := n }, rest)
  | month =>
    (takeNumber? 2 (trimStart text)).map fun (n, rest) => ({ parts with month := n }, rest)
  | day => (takeNumber? 2 (trimStart text)).map fun (n, rest) => ({ parts with day := n }, rest)
  | hour => (takeNumber? 2 (trimStart text)).map fun (n, rest) => ({ parts with hour := n }, rest)
  | minute =>
    (takeNumber? 2 (trimStart text)).map fun (n, rest) => ({ parts with minute := n }, rest)
  | second =>
    (takeNumber? 2 (trimStart text)).map fun (n, rest) => ({ parts with second := n }, rest)
  | fraction =>
    (takeFraction? text).map fun (n, rest) => ({ parts with nanosecond := n }, rest)
  | blanks => some (parts, trimStart text)
  | fixed c => (takeFixed? c text).map fun rest => (parts, rest)

end Piece

namespace Layout

/-- Reads a text by a layout, from the numbers read so far. -/
def readFrom? : Layout → Parts → List Char → Option Parts
  | [], parts, [] => some parts
  | [], _, _ :: _ => none
  | piece :: layout, parts, text => do
    let (parts, rest) ← piece.take? parts text
    readFrom? layout parts rest

/-- Reads a text by a layout. -/
def read? (layout : Layout) (text : List Char) : Option Parts :=
  layout.readFrom? {} text

/-- The layout of a date in an event's text: `dd/MM/yyyy`. -/
def eventDate : Layout := [.day, .fixed '/', .month, .fixed '/', .year]

/-- The layout of a date on the command line: `yyyy-MM-dd`. -/
def isoDate : Layout := [.year, .fixed '-', .month, .fixed '-', .day]

/-- The layout of a moment in a feed without an offset. -/
def feedMoment : Layout :=
  isoDate ++ [.fixed 'T', .hour, .fixed ':', .minute, .fixed ':', .second, .fraction]

/-- The layout of a moment in a stored event. -/
def storedMoment : Layout :=
  [.year, .blanks, .fixed '-', .month, .blanks, .fixed '-', .day, .blanks, .fixed 'T',
    .hour, .blanks, .fixed ':', .minute, .blanks, .fixed ':', .second, .fraction, .blanks]

end Layout

end Footage.Calendar
