import Footage.Text.Lowercase
import Footage.Text.Substring
import Footage.Text.WordChar

/-!
# Video resolutions

The picture sizes that broadcasts come in, and their recognition in free text.
-/

namespace Footage

open Text

/-- A picture size. -/
inductive Resolution where
  | uhd
  | fullHd
  | fullHdInterlaced
  | hd
  | pal
  | standard
  deriving DecidableEq, Repr

namespace Resolution

/-- The resolutions from the largest to the smallest. -/
def all : List Resolution := [uhd, fullHd, fullHdInterlaced, hd, pal, standard]

/-- The name of a resolution. -/
def name : Resolution → String
  | uhd => "4K"
  | fullHd => "1080p"
  | fullHdInterlaced => "1080i"
  | hd => "720p"
  | pal => "576p"
  | standard => "SD"

/-- The resolution with a given name. -/
def ofName? (name : String) : Option Resolution :=
  all.find? (·.name = name)

/-- The width in pixels. -/
def width : Resolution → Nat
  | uhd => 3840
  | fullHd | fullHdInterlaced => 1920
  | hd => 1280
  | pal => 768
  | standard => 640

/-- The height in pixels. -/
def height : Resolution → Nat
  | uhd => 2160
  | fullHd | fullHdInterlaced => 1080
  | hd => 720
  | pal => 576
  | standard => 480

/-- Whether the letters s and d, in any case, stand in the text as a word of their own. The
first argument tells whether a word character stands before the text. -/
def hasSdWord (inWord : Bool) : List Char → Bool
  | [] => false
  | c :: rest =>
    let here := match rest with
      | d :: rest =>
        !inWord && c ∈ ['s', 'S', 'ſ'] && d ∈ ['d', 'D'] &&
          !(rest.head?.map isWordChar |>.getD false)
      | [] => false
    here || hasSdWord (isWordChar c) rest

/-- Whether a resolution is named in a lower-case text. Standard definition must be a word of
its own; the other names may stand anywhere. -/
def namedIn (text : List Char) : Resolution → Bool
  | standard => hasSdWord false text
  | r => contains (lowercase r.name.toList) text

/-- The largest resolution named in a text, in any case. -/
def classify? (text : List Char) : Option Resolution :=
  all.find? (namedIn (lowercase text))

end Resolution

end Footage
