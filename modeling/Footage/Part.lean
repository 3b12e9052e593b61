import Footage.Text.Lowercase
import Footage.Text.Substring

/-!
# Parts of a broadcast

A match is broadcast in parts, from the build-up to the reactions. A video without a recognised
part is filed under the default part.
-/

namespace Footage

open Text

/-- A part of a broadcast. -/
inductive Part where
  | default
  | preMatch
  | firstHalf
  | secondHalf
  | extraTime
  | trophyCeremony
  | postMatch
  deriving DecidableEq, Repr

namespace Part

/-- The parts in broadcast order. -/
def all : List Part :=
  [default, preMatch, firstHalf, secondHalf, extraTime, trophyCeremony, postMatch]

/-- The name shown to people. -/
def name : Part → String
  | default => "Default"
  | preMatch => "Pre-Match"
  | firstHalf => "1st Half"
  | secondHalf => "2nd Half"
  | extraTime => "Extra-Time/Penalties"
  | trophyCeremony => "Trophy Ceremony"
  | postMatch => "Post-Match"

/-- The name used in stored events. -/
def key : Part → String
  | default => "default"
  | preMatch => "pre_match"
  | firstHalf => "first_half"
  | secondHalf => "second_half"
  | extraTime => "extra_time"
  | trophyCeremony => "trophy_ceremony"
  | postMatch => "post_match"

/-- The part with a given key. -/
def ofKey? (key : String) : Option Part :=
  all.find? (·.key = key)

/-- The words by which a part is recognised, in the order in which they are looked for. -/
def vocabulary : List (String × Part) :=
  [("pre", preMatch), ("1st", firstHalf), ("first", firstHalf), ("2nd", secondHalf),
    ("second", secondHalf), ("extra", extraTime), ("penalt", extraTime), ("post", postMatch),
    ("trophy", trophyCeremony)]

/-- The part that a label names: the first entry of the vocabulary that occurs in it, in any
case. -/
def ofLabel? (label : List Char) : Option Part :=
  let label := lowercase label
  (vocabulary.find? fun (word, _) => mentions label word).map Prod.snd

end Part

end Footage
