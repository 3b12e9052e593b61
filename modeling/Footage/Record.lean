import Footage.Failure
import Footage.Value
import Footage.Warning

/-!
# Records

A record holds what one match of a pattern says about the fields: the values that were read and
the captured texts that could not be read. Values are looked up by the kind that the caller
expects.
-/

namespace Footage

open Calendar

/-- What a match says about one field. -/
inductive Binding where
  /-- Nothing was captured. -/
  | absent
  /-- The captured text could not be read. -/
  | unparsable (raw : String)
  | value (value : Value)
  deriving DecidableEq

/-- The values and the unreadable texts of fields. -/
@[ext]
structure Record where
  value? : Field → Option Value
  unparsable? : Field → Option String

namespace Record

/-- The record that knows nothing. -/
def empty : Record := ⟨fun _ => none, fun _ => none⟩

/-- The record with a binding of a field added. A value and an unreadable text of one field do
not displace each other. -/
def insert (record : Record) (field : Field) : Binding → Record
  | .absent => record
  | .unparsable raw =>
    { record with
      unparsable? := fun other => if other = field then some raw else record.unparsable? other }
  | .value value =>
    { record with
      value? := fun other => if other = field then some value else record.value? other }

/-- Whether the record knows nothing about any field. -/
def isEmpty (record : Record) : Bool :=
  Field.all.all fun field => (record.value? field).isNone && (record.unparsable? field).isNone

/-- The warning for a default that stands in for a field without a value. -/
def defaultWarning (record : Record) (field : Field) : Warning :=
  ⟨field, record.unparsable? field⟩

/-- The value of a field, if it has one, as a value of an expected kind. -/
def typed? {α : Type} (expected : Kind) (extract : Value → Option α) (record : Record)
    (field : Field) : Except Failure (Option α) :=
  match record.value? field with
  | none => .ok none
  | some value =>
    match extract value with
    | some result => .ok (some result)
    | none => .error (.misconfigured (.wrongKind field expected value.kind))

/-- The text of a field. -/
def text? : Record → Field → Except Failure (Option String) :=
  typed? .text fun | .text text => some text | _ => none

/-- The team of a field. -/
def team? : Record → Field → Except Failure (Option Team) :=
  typed? .team fun | .team team => some team | _ => none

/-- The competition of a field. -/
def competition? : Record → Field → Except Failure (Option Competition) :=
  typed? .competition fun | .competition competition => some competition | _ => none

/-- The season of a field. -/
def season? : Record → Field → Except Failure (Option Season) :=
  typed? .season fun | .season season => some season | _ => none

/-- The fixture of a field. -/
def fixture? : Record → Field → Except Failure (Option Fixture) :=
  typed? .fixture fun | .fixture fixture => some fixture | _ => none

/-- The moment of a field. -/
def date? : Record → Field → Except Failure (Option Moment) :=
  typed? .date fun | .date moment => some moment | _ => none

/-- The resolution of a field. -/
def resolution? : Record → Field → Except Failure (Option Resolution) :=
  typed? .resolution fun | .resolution resolution => some resolution | _ => none

/-- The number of a field. -/
def integer? : Record → Field → Except Failure (Option UInt64) :=
  typed? .integer fun | .integer number => some number | _ => none

/-- The number of channels of a field. -/
def channels? : Record → Field → Except Failure (Option UInt32) :=
  typed? .channels fun | .channels number => some number | _ => none

end Record

end Footage
