import Footage.Field
import Footage.Text.Decimal
import Footage.Url.Error

/-!
# Failures

Everything that can go wrong, by cause. A misconfiguration is a fault of the data source's rules;
the other failures come from the pages, the network or the arguments of a call.
-/

namespace Footage

open Text

/-- Why the rules of a data source, or the settings of a harvest, cannot be used. -/
inductive Misconfiguration where
  /-- A field is bound to the whole match. -/
  | wholeMatch (field : Field)
  /-- A field is bound to a group that the pattern does not have. -/
  | missingGroup (field : Field) (index count : Nat)
  /-- A field is bound by a kit for another target. -/
  | foreignField (field : Field) (target : Target)
  /-- A field is bound to two groups. -/
  | repeatedField (field : Field)
  /-- A field has no parser. -/
  | noParser (field : Field)
  /-- A pattern for parts captures nothing. -/
  | noPartGroup (pattern : String)
  /-- The parser of a field made a value of another kind. -/
  | wrongKind (field : Field) (expected actual : Kind)
  /-- There is no kit set to parse a page with. -/
  | noKitSets
  /-- A data source has no kit set. -/
  | emptySource
  /-- The base of a data source is no URL. -/
  | badBase (text : String) (error : Url.Error)
  /-- The selector for the links of a listing is no selector. -/
  | badSelector (text : String)
  /-- A forum has no kit for its listing. -/
  | noListKit
  /-- A number of steps or workers is zero. -/
  | zeroBudget (name : String)
  /-- A fault that a fetcher reports. -/
  | reported (text : String)
  deriving DecidableEq, Repr

/-- A number in a message. -/
private def number (n : Nat) : String :=
  String.ofList (decimal n)

/-- The wording of a misconfiguration. -/
def Misconfiguration.message : Misconfiguration → String
  | wholeMatch field =>
    "field '" ++ field.name ++ "' is mapped to group 0, which is the whole match"
  | missingGroup field index count =>
    "field '" ++ field.name ++ "' is mapped to group " ++ number index ++
      " but the pattern has only " ++ number count ++ " group(s)"
  | foreignField field target =>
    "field '" ++ field.name ++ "' does not belong to " ++ target.name
  | repeatedField field => "field '" ++ field.name ++ "' is mapped to more than one group"
  | noParser field => "no parser registered for field '" ++ field.name ++ "'"
  | noPartGroup pattern => "part identifier pattern '" ++ pattern ++ "' needs a capture group"
  | wrongKind field expected actual =>
    "field '" ++ field.name ++ "' expects a " ++ expected.name ++
      " value but its parser produced " ++ actual.name
  | noKitSets => "no pattern kit sets configured"
  | emptySource => "a data source needs at least one kit set"
  | badBase text error => "base_uri '" ++ text ++ "': " ++ error.message
  | badSelector text => "link_selector '" ++ text ++ "'"
  | noListKit => "forum data sources need a 'list' kit"
  | zeroBudget name => name ++ " must be at least 1"
  | reported text => text

/-- Why a harvest, or a step of it, has no result. -/
inductive Failure where
  | misconfigured (cause : Misconfiguration)
  /-- A text is no pattern. -/
  | badPattern
  /-- The pattern for events has no match in a page. -/
  | unmatched (pattern excerpt : String)
  /-- The numbers of packs and of sources in a page differ. -/
  | uncorrelated (packs sources : Nat)
  /-- A request was answered with an error status. -/
  | status (url : String) (code : Nat)
  /-- A request was given up. -/
  | retriesExhausted (attempts : Nat) (message : String)
  | badUrl (text : String)
  | badDate (text : String)
  | badFeed (reason : String)
  | badYaml
  | badJson
  /-- A file does not exist. -/
  | missingFile
  /-- A directory stands where a file is expected. -/
  | notFile
  deriving DecidableEq, Repr

namespace Failure

/-- Whether the failure is a fault of the rules rather than of the pages. -/
def isConfiguration : Failure → Bool
  | misconfigured _ | badPattern => true
  | _ => false

/-- The wording of a failure. -/
def message : Failure → String
  | misconfigured cause => "Invalid pattern kit configuration: " ++ cause.message
  | badPattern => "Invalid regular expression"
  | unmatched pattern excerpt =>
    "Could not parse Event metadata with pattern:\n" ++ pattern ++ "\nfrom supplied text:\n" ++
      excerpt
  | uncorrelated packs sources =>
    "Found " ++ number packs ++ " video file pack(s) but " ++ number sources ++
      " file source(s); refusing to correlate"
  | status url code => "Request to " ++ url ++ " failed with status " ++ number code
  | retriesExhausted attempts message =>
    "Failed after " ++ number attempts ++ " attempts: " ++ message
  | badUrl text => "Invalid URL: '" ++ text ++ "'"
  | badDate text =>
    "Invalid date format: '" ++ text ++ "'. Expected YYYY-MM-DD (e.g., 2024-08-01)"
  | badFeed reason => "Invalid feed: " ++ reason
  | badYaml => "YAML serialization failed"
  | badJson => "JSON parsing failed"
  | missingFile => "IO error: No such file or directory (os error 2)"
  | notFile => "IO error: Is a directory (os error 21)"

end Failure

end Footage
