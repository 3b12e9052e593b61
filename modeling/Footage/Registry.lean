import Footage.Calendar.Layout
import Footage.Value

/-!
# Value parsers

A registry gives fields the parsers that turn captured text into values. The standard registry
has a parser for every field, and each yields values of its field's kind.
-/

namespace Footage

open Text Calendar

/-- Turns captured text into a value, or rejects it. -/
abbrev ValueParser := String → Option Value

namespace ValueParser

/-- Trimmed text that is not empty. -/
def text : ValueParser := fun raw =>
  let text := trimmed raw
  if text.isEmpty then none else some (.text text)

/-- A team with a name that is not empty. -/
def team : ValueParser := fun raw =>
  let team := Team.ofText raw
  if team.name.isEmpty then none else some (.team team)

/-- A competition with a name that is not empty. -/
def competition : ValueParser := fun raw =>
  let competition := Competition.ofText raw
  if competition.name.isEmpty then none else some (.competition competition)

/-- A season. -/
def season : ValueParser := fun raw =>
  (Season.read? raw.toList).map .season

/-- A fixture. -/
def fixture : ValueParser := fun raw =>
  (Fixture.read? raw.toList).map .fixture

/-- The start of a day written as `dd/MM/yyyy`. -/
def date : ValueParser := fun raw =>
  ((Layout.eventDate.read? (trim raw.toList)).bind Parts.day?).map
    fun day => .date (.startOf day)

/-- The largest resolution named in the text. -/
def resolution : ValueParser := fun raw =>
  (Resolution.classify? raw.toList).map .resolution

/-- The number at the start of the text, as in `8000 kbps`. -/
def integer : ValueParser := fun raw => do
  let n ← readDigits? ((trim raw.toList).takeWhile Char.isDigit)
  if n < UInt64.size then some (.integer (.ofNat n)) else none

/-- The number of channels of a layout: `5.1` has six. A sum that does not fit 32 bits wraps
around. -/
def channels : ValueParser := fun raw => do
  let parts := (trim raw.toList).splitOn '.'
  let counts ← parts.mapM fun part => readUnsigned? UInt32.size (trim part)
  return .channels (.ofNat (counts.foldr (· + ·) 0))

/-- The standard parser of each kind of field. -/
def ofKind : Kind → ValueParser
  | .text => text
  | .team => team
  | .competition => competition
  | .season => season
  | .fixture => fixture
  | .date => date
  | .resolution => resolution
  | .integer => integer
  | .channels => channels

/-- The standard parser of a field. -/
def ofField (field : Field) : ValueParser :=
  ofKind field.kind

end ValueParser

/-- The parsers of the fields that have one. -/
structure Registry where
  parser? : Field → Option ValueParser

namespace Registry

/-- The registry without parsers. -/
def empty : Registry := ⟨fun _ => none⟩

/-- Gives a field a parser, in place of the one it may have had. -/
def register (registry : Registry) (field : Field) (parser : ValueParser) : Registry :=
  ⟨fun other => if other = field then some parser else registry.parser? other⟩

/-- Gives several fields one parser. -/
def registerAll (registry : Registry) (fields : List Field) (parser : ValueParser) : Registry :=
  fields.foldl (fun registry field => registry.register field parser) registry

/-- The registry with the standard parser of every field. -/
def standard : Registry :=
  empty
    |>.register .homeTeam .team
    |>.register .awayTeam .team
    |>.register .competition .competition
    |>.register .season .season
    |>.register .fixture .fixture
    |>.register .date .date
    |>.registerAll [.channel, .source, .approximateDuration, .languages, .mediaContainer,
      .videoCodec, .audioCodec] .text
    |>.register .resolution .resolution
    |>.register .audioChannels .channels
    |>.registerAll [.videoBitrate, .audioBitrate, .filesize, .framerate] .integer

/-- Whether a field has a parser. -/
def has (registry : Registry) (field : Field) : Bool :=
  (registry.parser? field).isSome

/-- The fields that have parsers, in the order of the list of fields. -/
def fields (registry : Registry) : List Field :=
  Field.all.filter registry.has

end Registry

end Footage
