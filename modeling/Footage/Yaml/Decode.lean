import Footage.Yaml.Number
import Footage.Yaml.Reader

/-!
# Decoding YAML nodes

Look-ups for nodes with a fixed set of entries. Any scalar is a text; a number is written plainly;
nothing, written plainly, is an absent value, an empty sequence or an empty mapping.
-/

namespace Footage.Yaml.Node

/-- A tag of the standard vocabulary. -/
def standardTag (name : String) : List Char :=
  ("tag:yaml.org,2002:" ++ name).toList

/-- Whether nothing is written in the place of a node. -/
def isBlank : Node → Bool
  | scalar _ .plain [] => true
  | _ => false

/-- The text of a scalar. -/
def text? : Node → Option String
  | scalar _ _ text => some (String.ofList text)
  | _ => none

/-- The natural number below a limit that a scalar stands for. -/
def natural? (limit : Nat) : Node → Option Nat
  | scalar tag style text =>
    if style = .plain ∨ style = .literal ∧ tag = some (standardTag "int") then
      Yaml.natural? limit text
    else none
  | _ => none

/-- A number of 64 bits. -/
def word64? (node : Node) : Option Nat :=
  node.natural? UInt64.size

/-- Whether a node stands for an absent value, if that can be said. -/
def isAbsent? : Node → Option Bool
  | scalar (some tag) .plain text =>
    if tag = standardTag "null" then (if isNull text then some true else none) else some false
  | scalar none .plain text => some (text.isEmpty || isNull text)
  | _ => some false

/-- A value that may be absent. -/
def optional? {α : Type} (decode : Node → Option α) : Option Node → Option (Option α)
  | none => some none
  | some node => do
    if ← node.isAbsent? then return none else return some (← decode node)

/-- The items of a sequence, each decoded. -/
def list? {α : Type} (decode : Node → Option α) : Node → Option (List α)
  | sequence items => items.mapM decode
  | node => if node.isBlank then some [] else none

/-- The entries of a mapping. -/
def entries? : Node → Option (List (Node × Node))
  | mapping entries => some entries
  | node => if node.isBlank then some [] else none

/-- The entries of a mapping by name. There are none with other names, and none twice. -/
def record? (names : List String) (node : Node) : Option (String → Option Node) := do
  let entries ← (← node.entries?).mapM fun (key, value) => return (← key.text?, value)
  let keys := entries.map Prod.fst
  if keys.all (· ∈ names) && keys.length == keys.eraseDups.length then
    some fun name => entries.lookup name
  else none

/-- An entry that stands for a value of its own when it is absent. -/
def orElse? {α : Type} (value : α) (decode : Node → Option α) : Option Node → Option α
  | none => some value
  | some node => decode node

/-- The name of a choice: a text, or the tag of the scalar that stands for nothing. -/
def choice? : Node → Option String
  | scalar (some ('!' :: name)) style text =>
    if style = .plain ∧ (text.isEmpty ∨ isNull text) ∧ !name.isEmpty then some (String.ofList name)
    else none
  | node => node.text?

end Footage.Yaml.Node
