import Footage.Calendar.Layout
import Footage.Calendar.Offset

/-!
# Time stamps of feeds

A feed dates its entries by moments with or without an offset from universal time. A moment with an
offset is read as one of universal time, and then seen from its place again: the offset is dropped
in favour of the local time.
-/

namespace Footage.Calendar

open Footage.Text

/-- Takes an offset: `Z`, or a sign, two digits of hours below 24, a colon and two digits of
minutes below 60. The minus sign may be the typographic one. -/
def takeOffset? (text : List Char) : Option (Offset × List Char) :=
  match text with
  | 'Z' :: rest | 'z' :: rest => some (.zero, rest)
  | sign :: rest => do
    guard (sign = '+' ∨ sign = '-' ∨ sign = '−')
    let (hours, rest) ← takeExactly? 2 rest
    let rest ← takeFixed? ':' rest
    let (minutes, rest) ← takeExactly? 2 rest
    let offset ← Offset.ahead? hours minutes
    return (if sign = '+' then offset else offset.opposite, rest)
  | [] => none

/-- Reads a moment with an offset. All numbers have their full width, and the letter between
date and time may be small or a space. -/
def readOffsetMoment? (text : List Char) : Option OffsetMoment := do
  let (year, rest) ← takeExactly? 4 text
  let rest ← takeFixed? '-' rest
  let (month, rest) ← takeExactly? 2 rest
  let rest ← takeFixed? '-' rest
  let (day, rest) ← takeExactly? 2 rest
  let rest ← match rest with
    | 'T' :: rest | 't' :: rest | ' ' :: rest => some rest
    | _ => none
  let (hour, rest) ← takeExactly? 2 rest
  let rest ← takeFixed? ':' rest
  let (minute, rest) ← takeExactly? 2 rest
  let rest ← takeFixed? ':' rest
  let (second, rest) ← takeExactly? 2 rest
  let (nanosecond, rest) ← takeFraction? rest
  let (offset, rest) ← takeOffset? rest
  guard rest.isEmpty
  let written ← Parts.moment? { year, month, day, hour, minute, second, nanosecond }
  OffsetMoment.ofLocal? written offset

/-- Reads the time stamp of a feed entry: a moment with an offset, or one without. It is the moment
as the place of the feed has it. -/
def readStamp? (text : List Char) : Option Moment :=
  let text := trim text
  (readOffsetMoment? text).bind OffsetMoment.local? <|>
    (Layout.feedMoment.read? text).bind Parts.moment?

end Footage.Calendar
