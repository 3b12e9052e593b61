import Footage.Pattern
import Footage.Record
import Footage.Registry

/-!
# Pattern kits

A pattern kit reads fields off a text: a pattern, the fields that its groups capture, and the
parsers of these fields. Compiling a kit checks that every field can be bound.
-/

namespace Footage

/-- The fields that the groups of a pattern capture, by ascending index. -/
abbrev Mapping := List (Nat × Field)

namespace Mapping

/-- The mapping with a field at an index, in place of the one that may have been there. -/
def insert (index : Nat) (field : Field) : Mapping → Mapping
  | [] => [(index, field)]
  | (other, present) :: rest =>
    if index < other then (index, field) :: (other, present) :: rest
    else if index = other then (index, field) :: rest
    else (other, present) :: insert index field rest

/-- The mapping of a list of pairs. Of two fields at one index the later one counts. -/
def ofList (pairs : List (Nat × Field)) : Mapping :=
  pairs.foldl (fun mapping (index, field) => insert index field mapping) []

end Mapping

/-- A field, the group that captures it, and the parser of its text. -/
structure BoundField where
  index : Nat
  field : Field
  parser : ValueParser

/-- What a captured text, if there is one, says about a field. -/
def BoundField.binding (bound : BoundField) (found : Pattern.Match) : Binding :=
  match found.captured? bound.index with
  | none => .absent
  | some raw =>
    match bound.parser raw with
    | some value => .value value
    | none => .unparsable raw

/-- A compiled pattern kit. -/
structure Kit where
  pattern : Pattern
  target : Target
  /-- The fields that the kit binds, by ascending index. -/
  bound : List BoundField

namespace Kit

/-- Binds the fields of a mapping in their order. Each group must exist and be none of the
whole match, and each field must belong to the target, be bound once and have a parser. -/
def bind (groupCount : Nat) (target : Target) (registry : Registry) :
    List Field → Mapping → Except Misconfiguration (List BoundField)
  | _, [] => .ok []
  | seen, (index, field) :: rest => do
    if index = 0 then throw (.wholeMatch field)
    if groupCount < index then throw (.missingGroup field index groupCount)
    if field.target ≠ target then throw (.foreignField field target)
    if field ∈ seen then throw (.repeatedField field)
    match registry.parser? field with
    | none => throw (.noParser field)
    | some parser =>
      let rest ← bind groupCount target registry (field :: seen) rest
      return ⟨index, field, parser⟩ :: rest

/-- Compiles a kit, with any compiler for its pattern. -/
def compileWith (compiler : Pattern.Compiler) (registry : Registry) (target : Target)
    (pattern : String) (mapping : Mapping) : Except Failure Kit :=
  match compiler pattern with
  | none => .error .badPattern
  | some pattern =>
    match bind pattern.groupCount target registry [] mapping with
    | .ok bound => .ok ⟨pattern, target, bound⟩
    | .error cause => .error (.misconfigured cause)

/-- Compiles a kit. -/
def compile : Registry → Target → String → Mapping → Except Failure Kit :=
  compileWith Pattern.ofText?

/-- The fields that the kit binds, with their groups. -/
def fields (kit : Kit) : Mapping :=
  kit.bound.map fun bound => (bound.index, bound.field)

/-- The group that captures a field. -/
def groupOf? (kit : Kit) (field : Field) : Option Nat :=
  (kit.bound.find? fun bound => bound.field = field).map BoundField.index

/-- What a match says about the fields of the kit. -/
def record (kit : Kit) (found : Pattern.Match) : Record :=
  kit.bound.foldl (fun record bound => record.insert bound.field (bound.binding found)) .empty

/-- The record of the first match in a text. -/
def first? (kit : Kit) (text : String) : Option Record :=
  (kit.pattern.first? text).map kit.record

/-- The records of all matches in a text. -/
def records (kit : Kit) (text : String) : List Record :=
  (kit.pattern.matchesIn text).map kit.record

end Kit

end Footage
