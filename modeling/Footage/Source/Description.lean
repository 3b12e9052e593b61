import Footage.Feed.Basic
import Footage.Kit.Basic
import Footage.Yaml.Decode

/-!
# Descriptions of data sources

A data source is described in YAML: where its feed is, how the feed is written, and by which
patterns its pages are read. A description is not checked beyond its form.
-/

namespace Footage

open Yaml

/-- The description of a kit. -/
structure KitDescription where
  pattern : String
  mapping : Mapping

/-- The description of a kit for video sources. -/
structure SourceKitDescription extends KitDescription where
  videoUrl : String
  partLabel : Option String

/-- The description of a kit set. -/
structure KitSetDescription where
  event : KitDescription
  sources : List SourceKitDescription

/-- The description of a kit for listings. -/
structure ListKitDescription where
  links : String
  event : KitDescription

/-- The description of a data source. -/
structure SourceDescription where
  name : Option String
  base : String
  feed : FeedKind
  kits : List KitSetDescription
  list : Option ListKitDescription
  maxScanSteps : Option Nat
  scrapeSteps : Option Nat
  workers : Option Nat

/-- Decodes which groups of a pattern are bound to which fields. Of several entries for one group
the last one counts. -/
def Mapping.ofNode? (node : Node) : Option Mapping := do
  let entries ← node.entries?
  return Mapping.ofList (← entries.mapM fun (index, field) => do
    return (← index.word64?, ← Field.ofName? (← field.choice?)))

namespace KitDescription

/-- Decodes the pattern and the mapping among the entries of a kit. -/
def ofEntries? (entry : String → Option Node) : Option KitDescription := do
  return {
    pattern := ← (← entry "pattern").text?
    mapping := ← Node.orElse? (Mapping.ofList []) Mapping.ofNode? (entry "fields") }

/-- Decodes a kit. -/
def ofNode? (node : Node) : Option KitDescription := do
  ofEntries? (← node.record? ["pattern", "fields"])

end KitDescription

/-- Decodes a kit for video sources. -/
def SourceKitDescription.ofNode? (node : Node) : Option SourceKitDescription := do
  let entry ← node.record? ["pattern", "fields", "video_url", "part_identifier"]
  return {
    toKitDescription := ← KitDescription.ofEntries? entry
    videoUrl := ← (← entry "video_url").text?
    partLabel := ← Node.optional? Node.text? (entry "part_identifier") }

/-- Decodes a kit set. -/
def KitSetDescription.ofNode? (node : Node) : Option KitSetDescription := do
  let entry ← node.record? ["event", "file_sources"]
  return {
    event := ← KitDescription.ofNode? (← entry "event")
    sources := ←
      Node.orElse? [] (Node.list? SourceKitDescription.ofNode?) (entry "file_sources") }

/-- Decodes a kit for listings. -/
def ListKitDescription.ofNode? (node : Node) : Option ListKitDescription := do
  let entry ← node.record? ["link_selector", "event"]
  return {
    links := ← (← entry "link_selector").text?
    event := ← KitDescription.ofNode? (← entry "event") }

namespace SourceDescription

/-- Decodes a data source. -/
def ofNode? (node : Node) : Option SourceDescription := do
  let entry ← node.record?
    ["name", "base_uri", "feed", "kit_sets", "list", "max_scan_steps", "scrape_steps", "workers"]
  return {
    name := ← Node.optional? Node.text? (entry "name")
    base := ← (← entry "base_uri").text?
    feed := ← FeedKind.ofKey? (← (← entry "feed").choice?)
    kits := ← Node.list? KitSetDescription.ofNode? (← entry "kit_sets")
    list := ← Node.optional? ListKitDescription.ofNode? (entry "list")
    maxScanSteps := ← Node.optional? Node.word64? (entry "max_scan_steps")
    scrapeSteps := ← Node.optional? Node.word64? (entry "scrape_steps")
    workers := ← Node.optional? Node.word64? (entry "workers") }

/-- Reads the description of a data source. -/
def read? (text : String) : Option SourceDescription :=
  (Node.read? text.toList).bind ofNode?

end SourceDescription

end Footage
