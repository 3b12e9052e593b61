import Footage.Url.Address
import Footage.Url.Error
import Footage.Url.Label

/-!
# Hosts

The host of a URL in its written form. Hosts of special schemes are domains in lower case, with
international labels in their ASCII encoding, or addresses; other schemes take almost any text.
-/

namespace Footage.Url

open Text

/-- The characters that no host may hold. -/
def isHostDelimiter (c : Char) : Bool :=
  c ∈ ['\x00', '\t', '\n', '\r', ' ', '#', '/', ':', '<', '>', '?', '@', '[', '\\', ']', '^', '|']

/-- The ASCII form of a domain. The characters of one that holds others than ASCII ones, or an
encoded label, are mapped first, and all its labels looked at. -/
def domainToAscii? (domain : List Char) : Option (List Char) := do
  let plain := domain.map Char.toLower
  let isEncoded := (plain.splitOn '.').any encodingMark.isPrefixOf
  if domain.all isAscii && !isEncoded then
    if plain.any isBarredFromDomain then none else some plain
  else
    let mapped := compose (← domain.mapM mapCharacter?).flatten
    if mapped.any isBarredFromDomain then none
    let labels ← (mapped.splitOn '.').mapM readLabel?
    if labels.any isDirected && !labels.all directionsFit then none
    return ['.'].intercalate (← labels.mapM writeLabel?)

/-- Reads the inside of a host in brackets. -/
def readBracketed (text : List Char) : Except Error (List Char) :=
  match text.getLast? with
  | some ']' =>
    match readIpv6? text.dropLast with
    | some groups => .ok (writeIpv6 groups)
    | none => .error .badIpv6
  | _ => .error .badIpv6

/-- Reads the host of a special scheme. -/
def readDomain (text : List Char) : Except Error (List Char) :=
  match text with
  | '[' :: rest => readBracketed rest
  | _ =>
    match (decodeUtf8? (percentDecode text)).bind domainToAscii? with
    | none => .error .badDomain
    | some domain =>
      if domain.isEmpty then .error .emptyHost
      else if endsInNumber domain then
        match readIpv4? domain with
        | some address => .ok (writeIpv4 address)
        | none => .error .badIpv4
      else .ok domain

/-- Reads the host of any other scheme. -/
def readPlainHost (text : List Char) : Except Error (List Char) :=
  match text with
  | '[' :: rest => readBracketed rest
  | _ =>
    if text.any isHostDelimiter then .error .badHostCharacter
    else .ok (percentEncode isUnwritable text)

end Footage.Url
