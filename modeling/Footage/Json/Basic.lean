/-!
# JSON values

The values of JSON documents, with their look-ups. The members of an object keep their order. A
number without fraction and exponent that fits in 64 bits is an integer; of every other number
only the text is kept. Of a string that has no text, nothing is kept.
-/

namespace Footage

/-- A JSON value. -/
inductive Json where
  | null
  | bool (b : Bool)
  | integer (n : Int)
  | real (text : String)
  | string (text : String)
  | array (elements : List Json)
  | object (members : List (String × Json))
  /-- A string that escapes half a surrogate pair, or an object with such a key. It may stand in a
  document where it is passed over, but it cannot be read. -/
  | unreadable
  deriving Repr, Inhabited

namespace Json

/-- The value of the only member with a given key, if there is exactly one. -/
def member? (key : String) (members : List (String × Json)) : Option Json :=
  match members.filter fun member => member.1 = key with
  | [(_, value)] => some value
  | _ => none

/-- How often a key occurs. -/
def count (key : String) (members : List (String × Json)) : Nat :=
  (members.filter fun member => member.1 = key).length

end Json

end Footage
