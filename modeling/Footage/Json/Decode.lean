import Footage.Json.Basic

/-!
# Decoding JSON values

Look-ups for values with a fixed set of members. A record is written as an object, in which no
known member occurs twice and others are ignored, or as an array of its members in order. A
choice is written as a string, or as an object with the choice as its only key and no content.
-/

namespace Footage.Json

/-- The members of a record by name. An array gives the members in the order of the names and
must not be shorter than `required`. -/
def record? (names : List String) (required : Nat) : Json → Option (String → Option Json)
  | object members =>
    if names.all fun name => count name members ≤ 1 then some fun name => member? name members
    else none
  | array elements =>
    if required ≤ elements.length ∧ elements.length ≤ names.length then
      some fun name => member? name (names.zip elements)
    else none
  | _ => none

/-- A string. -/
def text? : Json → Option String
  | string text => some text
  | _ => none

/-- An integer between two bounds. -/
def integer? (low high : Int) : Json → Option Int
  | integer n => if low ≤ n ∧ n ≤ high then some n else none
  | _ => none

/-- A number of 32 bits. -/
def word32? (json : Json) : Option UInt32 :=
  (integer? 0 4294967295 json).map fun n => .ofNat n.toNat

/-- A number of 64 bits. -/
def word64? (json : Json) : Option UInt64 :=
  (integer? 0 18446744073709551615 json).map fun n => .ofNat n.toNat

/-- The name of a choice. -/
def choice? : Json → Option String
  | string name => some name
  | object [(name, null)] => some name
  | _ => none

/-- The elements of an array, each decoded. -/
def list? {α : Type} (decode : Json → Option α) : Json → Option (List α)
  | array elements => elements.mapM decode
  | _ => none

/-- The members of an object. -/
def entries? : Json → Option (List (String × Json))
  | object members => some members
  | _ => none

/-- A member that may be absent or null. -/
def optional? {α : Type} (decode : Json → Option α) : Option Json → Option (Option α)
  | none | some null => some none
  | some json => (decode json).map some

/-- A member that stands for a value of its own when it is absent. -/
def orElse? {α : Type} (value : α) (decode : Json → Option α) : Option Json → Option α
  | none => some value
  | some json => decode json

end Footage.Json
