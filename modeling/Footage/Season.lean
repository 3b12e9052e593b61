import Footage.Calendar.Day
import Footage.Text.Blank
import Footage.Text.Decimal

/-!
# Seasons

A football season is named by the years in which it starts and ends. A season read from text
has both years between 1900 and 3000; a year of one or two digits stands for a year between
1950 and 2049.
-/

namespace Footage

open Text Calendar

/-- A football season, by the years of its first and last day. -/
structure Season where
  startYear : Int32
  endYear : Int32
  deriving DecidableEq, Repr

namespace Season

/-- The first year that a season read from text may have. -/
def minYear : Int := 1900

/-- The last year that a season read from text may have. -/
def maxYear : Int := 3000

/-- The season of two years, both between `minYear` and `maxYear`. -/
def ofYears? (first last : Int) : Option Season :=
  if minYear ≤ first ∧ first ≤ maxYear ∧ minYear ≤ last ∧ last ≤ maxYear then
    some ⟨.ofInt first, .ofInt last⟩
  else none

/-- The season that starts in a year and ends in the next. -/
def startingIn (year : Int) : Season :=
  ⟨.ofInt year, .ofInt (year + 1)⟩

/-- The year that a written year stands for: 0 to 49 lie in this century, 50 to 99 in the
last. -/
def expandYear (year : Int) : Int :=
  if 0 ≤ year ∧ year ≤ 49 then year + 2000
  else if 50 ≤ year ∧ year ≤ 99 then year + 1900
  else year

/-- Reads one written year, with blanks around it. -/
def readYear? (text : List Char) : Option Int :=
  (readSigned? (-2147483648) 2147483647 (trim text)).map expandYear

/-- Reads a season: two years with a slash between them, or its first year alone. -/
def read? (text : List Char) : Option Season := do
  match ← (text.splitOn '/').mapM readYear? with
  | [first, last] => ofYears? first last
  | [first] => ofYears? first (first + 1)
  | _ => none

/-- The first of August of the season's first year. -/
def startDay? (season : Season) : Option Day :=
  Day.ofParts? season.startYear.toInt 8 1

/-- The last of May of the season's last year. -/
def endDay? (season : Season) : Option Day :=
  Day.ofParts? season.endYear.toInt 5 31

/-- A year in decimal, with a minus sign if it is negative. -/
def writeYear (year : Int32) : List Char :=
  if year.toInt < 0 then '-' :: decimal year.toInt.natAbs else decimal year.toInt.natAbs

/-- The season as its two years with a slash between them. -/
def write (season : Season) : List Char :=
  writeYear season.startYear ++ '/' :: writeYear season.endYear

/-- The order of seasons: by first year, then by last year. -/
def le (a b : Season) : Bool :=
  a.startYear < b.startYear || (a.startYear == b.startYear && a.endYear ≤ b.endYear)

end Season

end Footage
