import Footage.CommandLine.Options
import Footage.Text.Decimal

/-!
# Commands

What the arguments of the program ask for.
-/

namespace Footage

open Text

/-- What a harvest is asked for with. -/
structure HarvestOptions where
  source : String
  since : Option String
  url : Option String
  labels : List String
  maxSteps : Option Nat
  workers : Option Nat
  retries : Nat
  output : Option String

/-- What the program is asked to do. -/
inductive Command where
  /-- To name its version. -/
  | version
  /-- To compile a data source. -/
  | validate (source : String)
  /-- To extract the event of a document. -/
  | parse (source document : String)
  /-- To harvest a data source. -/
  | harvest (options : HarvestOptions)

namespace Command

open CommandLine

/-- The option for the data source. -/
def sourceOption : OptionName := ⟨"source", some 's'⟩

/-- The options of a harvest. -/
def harvestOptions : List OptionName :=
  [sourceOption, ⟨"since", none⟩, ⟨"url", none⟩, ⟨"label", some 'l'⟩, ⟨"max-steps", none⟩,
    ⟨"workers", some 'w'⟩, ⟨"retries", none⟩, ⟨"output", some 'o'⟩]

/-- The name of a file, which must not be empty. -/
def file? (name : String) : Option String :=
  if name.isEmpty then none else some name

/-- The value of an option that must be given once and names a file. -/
def requiredFile? (name : String) (parts : List Part) : Option String := do
  file? (← (← atMostOne? name parts))

/-- The value of an option that may be given once. The value must be readable. -/
def value? {α : Type} (read : List Char → Option α) (name : String) (parts : List Part) :
    Option (Option α) := do
  match ← atMostOne? name parts with
  | none => return none
  | some value => return some (← read value.toList)

/-- The command to harvest. -/
def harvestOfParts? (parts : List Part) : Option Command := do
  if !(positionals parts).isEmpty then none
  else
    return .harvest {
      source := ← requiredFile? "source" parts
      since := ← atMostOne? "since" parts
      url := ← atMostOne? "url" parts
      labels := values "label" parts
      maxSteps := ← value? (readUnsigned? UInt64.size) "max-steps" parts
      workers := ← value? (readUnsigned? UInt64.size) "workers" parts
      retries := ((← value? (readSigned? 0 4294967295) "retries" parts).map Int.toNat).getD 0
      output := ← match ← atMostOne? "output" parts with
        | none => some none
        | some name => (file? name).map some }

/-- Whether an argument asks for the version. -/
def asksForVersion (argument : String) : Bool :=
  argument == "--version" || "-V".toList.isPrefixOf argument.toList

/-- The command with a name and some arguments, if there is one. -/
def ofName? : String → List String → Option Command
  | "validate", arguments => do
    let parts ← parts? [sourceOption] arguments
    match positionals parts with
    | [] => return .validate (← requiredFile? "source" parts)
    | _ => none
  | "parse", arguments => do
    let parts ← parts? [sourceOption] arguments
    match positionals parts with
    | [document] => return .parse (← requiredFile? "source" parts) (← file? document)
    | _ => none
  | "harvest", arguments => do harvestOfParts? (← parts? harvestOptions arguments)
  | _, _ => none

/-- The command that some arguments give, if they give one. -/
def ofArguments? : List String → Option Command
  | [] => none
  | first :: arguments => if asksForVersion first then some .version else ofName? first arguments

/-- The files that a command reads. -/
def files : Command → List String
  | version => []
  | validate source => [source]
  | parse source document => [source, document]
  | harvest options => [options.source]

end Command

end Footage
