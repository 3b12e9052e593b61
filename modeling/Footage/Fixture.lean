import Footage.Text.Blank
import Footage.Text.Decimal
import Footage.Text.DecimalDigit
import Footage.Text.Lowercase
import Footage.Text.Substring
import Footage.Text.WordChar

/-!
# Fixtures

A fixture is a matchday or a knock-out round, with a number by which fixtures are compared and
sorted. Matchdays have numbers below 1000, the group stage 256, and the knock-out rounds larger
numbers in the order in which they are played.
-/

namespace Footage

open Text

/-- A matchday or a knock-out round. -/
structure Fixture where
  title : String
  number : UInt32
  deriving DecidableEq, Repr

namespace Fixture

/-- The number to which the size of an unlisted round is added. -/
def roundBase : Nat := 1024

def groupStage : Fixture := ⟨"Group Stage", 256⟩
def roundOf64 : Fixture := ⟨"Round of 64", 16384⟩
def roundOf32 : Fixture := ⟨"Round of 32", 32768⟩
def roundOf16 : Fixture := ⟨"Round of 16", 65536⟩
def quarterFinal : Fixture := ⟨"Quarter-Final", 1048576⟩
def semiFinal : Fixture := ⟨"Semi-Final", 4194304⟩
def playoff : Fixture := ⟨"Playoff", 8388608⟩
def final : Fixture := ⟨"Final", 16777216⟩

/-- The fixture of an event that names none. -/
def unnamed : Fixture := ⟨"", 0⟩

/-- Two fixtures are the same round when their numbers are equal, whatever their titles. -/
def sameRound (a b : Fixture) : Bool :=
  a.number == b.number

/-- Fixtures are sorted by number. -/
def le (a b : Fixture) : Bool :=
  a.number ≤ b.number

/-- The fixture with a word and a number for its title. -/
def titled (word : List Char) (number : Nat) : Fixture :=
  ⟨String.ofList (word ++ ' ' :: decimal number), .ofNat number⟩

/-- A numbered matchday. -/
def matchday (number : UInt32) : Fixture :=
  titled "Matchday".toList number.toNat

/-- The round that a number of teams play. Only the sizes 16, 32 and 64 have places of their
own in the order; the number of any other size must fit in 32 bits. -/
def roundOf? (teams : Nat) : Option Fixture :=
  if teams = 16 then some roundOf16
  else if teams = 32 then some roundOf32
  else if teams = 64 then some roundOf64
  else if roundBase + teams < UInt32.size then
    some ⟨String.ofList ("Round of ".toList ++ decimal teams), .ofNat (roundBase + teams)⟩
  else none

/-- One to three decimal digits, of any script. -/
def isShortNumber (text : List Char) : Bool :=
  1 ≤ text.length && text.length ≤ 3 && text.all isDecimalDigit

/-- Reads a word, a space and a short number in ASCII digits. -/
def readTitled? (text : List Char) : Option Fixture :=
  let word := text.takeWhile (· ≠ ' ')
  match text.dropWhile (· ≠ ' ') with
  | ' ' :: number =>
    if !word.isEmpty && word.all isWordChar && isShortNumber number then
      (readDigits? number).map (titled word)
    else none
  | _ => none

/-- The letters of a text that tell rounds apart: lower case, without blanks, hyphens and
underscores. -/
def normalForm (text : List Char) : List Char :=
  lowercase (text.filter fun c => !isBlank c && c ≠ '-' && c ≠ '_')

/-- The rounds that are known by a word, in the order in which the words are looked for. -/
def named : List (String × Fixture) :=
  [("group", groupStage), ("quarter", quarterFinal), ("semi", semiFinal), ("playoff", playoff),
    ("final", final)]

/-- The first known round whose word occurs in a normal form. -/
def namedIn? (form : List Char) : Option Fixture :=
  (named.find? fun (word, _) => mentions form word).map Prod.snd

/-- The digits after `round` or `roundof` at the start of a text. -/
def sizeAtStart? (text : List Char) : Option (List Char) := do
  let rest ← after? "round".toList text
  let digits (rest : List Char) : Option (List Char) :=
    let digits := rest.takeWhile isDecimalDigit
    if digits.isEmpty then none else some digits
  ((after? "of".toList rest).bind digits) <|> digits rest

/-- The digits after the first `round` or `roundof` that digits follow. -/
def sizeIn? : List Char → Option (List Char)
  | [] => none
  | c :: rest => sizeAtStart? (c :: rest) <|> sizeIn? rest

/-- Reads a knock-out round by its size. -/
def readRound? (form : List Char) : Option Fixture := do
  let digits ← sizeIn? form
  let teams ← readDigits? digits
  if teams < UInt32.size then roundOf? teams else none

/-- Reads a fixture: a short number is a matchday, a word and a short number keep their title,
and any other text is searched for the name or the size of a round. -/
def read? (text : List Char) : Option Fixture :=
  let text := trim text
  if isShortNumber text then
    (readDigits? text).map fun number => matchday (.ofNat number)
  else
    readTitled? text <|>
      let form := normalForm text
      namedIn? form <|> readRound? form

end Fixture

end Footage
